/-!
# Files as texts
-/

namespace Throttle

/-- What a path leads to, for a reader of texts. -/
inductive FileText
  /-- No file. -/
  | absent
  /-- A file whose bytes are not the UTF-8 form of a text. -/
  | notText
  | text (content : String)
  deriving DecidableEq, Repr

end Throttle
