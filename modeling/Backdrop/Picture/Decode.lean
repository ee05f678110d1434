import Backdrop.Picture.Bitmap
import Backdrop.Picture.Png

/-!
# Backdrop.Picture.Decode

Pictures out of the bytes of a file, whose format is told by how they begin.
-/

namespace Backdrop
namespace Picture

/-- A picture in a format whose name is known. -/
def orDamaged (format : String) : Option Picture → Except PictureError Picture
  | none => .error (.damaged format)
  | some p => .ok p

def decode (bytes : List UInt8) : Except PictureError Picture :=
  if Png.signature.isPrefixOf bytes then
    orDamaged "Png" (Png.decode (bytes.drop Png.signature.length))
  else if Bitmap.signature.isPrefixOf bytes then orDamaged "Bmp" (Bitmap.decode bytes)
  else .error .unknownFormat

end Picture
end Backdrop
