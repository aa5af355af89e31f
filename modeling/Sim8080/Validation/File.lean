import Sim8080.Validation.Case
import Sim8080.Codec.Zlib
import Sim8080.Files

namespace Sim8080

/-- Why a test file could not be read. -/
inductive TestFileError where
  | io (e : IoError)
  | codec (e : CodecError)
  | text (e : Json.TextError)

def TestFileError.message : TestFileError → String
  | .io e => e.message
  | .codec e => e.message
  | .text e => e.message

namespace TestCase

def load (files : Files) (path : String) : Except TestFileError (List TestCase) := do
  let raw ← (files.read path).mapError .io
  let raw ← if Files.extension? path == some "gz" then (Gzip.decode raw).mapError .codec else pure raw
  let some text := String.fromUTF8? raw | throw (.io .invalidUtf8)
  let doc ← (fileSchema.parse text).mapError .text
  pure ((doc.asArray?.getD #[]).toList.map ofJson)

end TestCase

end Sim8080
