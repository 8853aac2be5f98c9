import Supervision.Text.Basic

/-!
Configuration documents: sections of `key = value` lines under a header in brackets.
-/

namespace Supervision.Ini

open Text

structure Section where
  header : Text
  entries : List (Text × Text)
  deriving DecidableEq

namespace Section

def ofSettings (header : Text) (settings : List (Text × Option Text)) : Section where
  header := header
  entries := settings.filterMap fun setting => setting.2.map fun value => (setting.1, value)

def get? (block : Section) (key : Text) : Option Text :=
  block.entries.lookup key

def keys (block : Section) : List Text :=
  block.entries.map Prod.fst

end Section

def entryLine (entry : Text × Text) : Text :=
  if entry.2.isEmpty then entry.1 ++ " =".toList else entry.1 ++ " = ".toList ++ entry.2

def headerLine (header : Text) : Text :=
  '[' :: header ++ [']']

def Section.text (block : Section) : Text :=
  (headerLine block.header :: block.entries.map entryLine).flatMap fun line => line ++ ['\n']

structure Document where
  sections : List Section
  deriving DecidableEq

namespace Document

def headers (document : Document) : List Text :=
  document.sections.map Section.header

def find? (document : Document) (header : Text) : Option Section :=
  document.sections.find? fun block => block.header == header

/-- One empty line stands between two sections. -/
def text (document : Document) : Text :=
  joinWith ['\n'] (document.sections.map Section.text)

end Document

end Supervision.Ini
