import Backdrop.Pixel.Extent

/-!
# Backdrop.Picture.Basic

Pictures with four bytes a pixel: red, green, blue and opacity, row by row from the top.
-/

namespace Backdrop

structure Picture where
  extent : Extent
  pixels : Array UInt8
  deriving Repr, DecidableEq, Inhabited

/-- Why bytes are no picture. -/
inductive PictureError where
  | unknownFormat
  | damaged (format : String)
  deriving Repr, DecidableEq, Inhabited

def PictureError.message : PictureError → String
  | .unknownFormat => "The image format could not be determined"
  | .damaged format => "Format error decoding " ++ format

namespace Picture

def opaque_ : UInt8 := 255

/-- A pixel of one brightness. -/
def gray (v opacity : UInt8) : List UInt8 := [v, v, v, opacity]

end Picture
end Backdrop
