import AmpArticle.Text.Quoted

/-!
Percent encoding: a byte as a percent sign and two hexadecimal digits in capitals. A character is encoded byte by byte
as UTF-8 has it.
-/

namespace AmpArticle.Text

/-- a byte in percent encoding -/
def percentByte (b : UInt8) : List Char := '%' :: (hexDigits 2 b.toNat).map Char.toUpper

/-- a character in percent encoding -/
def percentChar (c : Char) : List Char := (String.utf8EncodeChar c).flatMap percentByte

end AmpArticle.Text
