import PromptCanvas.Codec.Base64
import PromptCanvas.Text.Search

set_option autoImplicit false

/-! # Data URLs

Pictures travel through the graph as data URLs: a media type and the bytes in base64. A URL is read
by cutting it at the first mark between the two. -/

namespace PromptCanvas.DataUrl

open Text

/-- What every data URL starts with. -/
def scheme : List Char := "data:".toList

/-- What stands between the media type and the bytes. -/
def mark : List Char := ";base64,".toList

/-- The URL of bytes with a media type. -/
def encode (data : Bytes) (mimeType : String) : String :=
  String.ofList (scheme ++ mimeType.toList ++ mark ++ Base64.encode data)

/-- The bytes and the media type of a URL. -/
def decode? (url : String) : Option (Bytes × String) := do
  let rest ← after? scheme url.toList
  let (mimeType, payload) ← cutAt? mark rest
  let data ← Base64.decode? payload
  some (data, String.ofList mimeType)

/-- The bytes and the media type of a URL that may be missing. -/
def decodeRef? (url : Option String) : Option (Bytes × String) := url.bind decode?

end PromptCanvas.DataUrl
