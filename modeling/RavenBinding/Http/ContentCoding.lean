import RavenBinding.Deflate.Container
import RavenBinding.Fault
import RavenBinding.Http.Message

/-!
# Codings of content

A response may say that its body was compressed, several times over if it lists several codings. The
last one is undone first. Codings that are not known are taken for none.

## Main definitions

- `ContentCoding`: the codings that are known
- `Response.decoded`: the response with its codings undone
-/

namespace RavenBinding

/-- The codings that are known. -/
inductive ContentCoding where
  | gzip
  | deflate
  deriving DecidableEq, Repr

namespace ContentCoding

/-- The coding of a name, in any case and with white space around it. -/
def ofName? (name : Text) : Option ContentCoding :=
  let name := (name.trim CodePoint.isBlank).toLowerAscii
  if name == Text.ofString "gzip" then some .gzip
  else if name == Text.ofString "deflate" then some .deflate
  else none

/-- The wording of a problem. -/
def problemText : Deflate.Problem → Text
  | .header => "incorrect header check"
  | .method => "unknown compression method"
  | .window => "invalid window size"
  | .dictionary => ""
  | .headerFlags => "unknown header flags set"
  | .headerChecksum => "header crc mismatch"
  | .blockKind => "invalid block type"
  | .storedLength => "invalid stored block lengths"
  | .tooManySymbols => "too many length or distance symbols"
  | .codeLengths => "invalid code lengths set"
  | .repetition => "invalid bit length repeat"
  | .noEnd => "invalid code -- missing end-of-block"
  | .literalCode => "invalid literal/lengths set"
  | .distanceCode => "invalid distances set"
  | .literal => "invalid literal/length code"
  | .distance => "invalid distance code"
  | .tooFarBack => "invalid distance too far back"
  | .checksum => "incorrect data check"
  | .length => "incorrect length check"

/-- The fault of a body that cannot be read. -/
def fault (problem : Deflate.Problem) : Fault :=
  ⟨.decodingError,
    match problem with
    | .dictionary => "Error 2 while decompressing data"
    | problem => Text.ofString "Error -3 while decompressing data: " ++ problemText problem⟩

/-- Undoes a coding. Blocks that are not in the container of the coding may be bare. -/
def undo : ContentCoding → Bytes → Except Deflate.Problem Bytes
  | gzip, body => Deflate.expand .gzip body
  | deflate, body =>
    match Deflate.expand .zlib body with
    | .ok bytes => .ok bytes
    | .error _ => Deflate.expand .bare body

end ContentCoding

namespace Response

/-- The codings of the body in the order in which they were done. -/
def codings (r : Response) : List ContentCoding :=
  let lines := r.headers.filter fun h => h.1.toLowerAscii == Text.ofString "content-encoding"
  (lines.flatMap fun h => Text.splitOn (CodePoint.ofChar ',') h.2).filterMap ContentCoding.ofName?

/-- The response with the codings of its body undone. -/
def decoded (r : Response) : Except Fault Response := do
  let body ← (r.codings.reverse.foldlM (fun body c => ContentCoding.undo c body) r.body).mapError
    ContentCoding.fault
  pure { r with body := body }

end Response

end RavenBinding
