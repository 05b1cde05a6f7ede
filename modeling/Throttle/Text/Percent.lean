import Throttle.Text.Hex

/-!
# Percent encoding

In the parts of an address a percent sign before two hexadecimal digits stands for a byte.  Every
other character stands for the bytes of its UTF-8 form.
-/

namespace Throttle.Text

def percentBytes : List Char → List UInt8
  | '%' :: high :: low :: rest =>
    match hexValue? high, hexValue? low with
    | some h, some l => UInt8.ofNat (16 * h + l) :: percentBytes rest
    | _, _ => 0x25 :: percentBytes (high :: low :: rest)
  | c :: rest => (String.singleton c).toUTF8.toList ++ percentBytes rest
  | [] => []

/-- The text that characters stand for, unless their bytes are no UTF-8. -/
def percentDecode? (cs : List Char) : Option String :=
  String.fromUTF8? ⟨(percentBytes cs).toArray⟩

end Throttle.Text
