import Throttle.Yaml.Dialect

/-!
# Line folding

Inside quoted and plain scalars a single line break reads as a space, further ones stand for
themselves, and blanks around a break are dropped.  `Folded` is a scalar that is being read: the
text so far, and the blanks or breaks behind it, whose meaning depends on what follows.
-/

namespace Throttle.Yaml

/-- A scalar that is being read. -/
structure Folded where
  /-- The text so far, last character first. -/
  reversed : List Char
  /-- Blanks behind it, last one first. -/
  blanks : List Char
  /-- The first break behind it, which is empty where it was escaped. -/
  firstBreak : Option (List Char)
  /-- The breaks after that one, last one first. -/
  moreBreaks : List Char
  deriving DecidableEq, Repr

namespace Folded

def empty : Folded := ⟨[], [], none, []⟩

/-- Blanks or a break stand behind the text. -/
def pending (f : Folded) : Bool := !f.blanks.isEmpty || f.firstBreak.isSome

/-- The text with what the blanks or breaks behind it amount to, last character first. -/
def joined (f : Folded) : List Char :=
  match f.firstBreak with
  | none => f.blanks ++ f.reversed
  | some ['\n'] => (if f.moreBreaks.isEmpty then [' '] else f.moreBreaks) ++ f.reversed
  | some first => f.moreBreaks ++ first ++ f.reversed

def push (f : Folded) (c : Char) : Folded := ⟨c :: f.joined, [], none, []⟩

/-- Adds a blank; those at the start of a line are dropped. -/
def blank (f : Folded) (c : Char) : Folded :=
  if f.firstBreak.isSome then f else { f with blanks := c :: f.blanks }

def lineBreak (f : Folded) (c : Char) : Folded :=
  if f.firstBreak.isSome then { f with moreBreaks := c :: f.moreBreaks }
  else ⟨f.reversed, [], some [c], []⟩

/-- Adds a line break that joins its lines without a space. -/
def escapedBreak (f : Folded) : Folded := ⟨f.joined, [], some [], []⟩

end Folded

end Throttle.Yaml
