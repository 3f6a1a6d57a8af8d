import FpgaHost.Image.Section
import FpgaHost.Text.Utf8

/-!
# Why an image is refused

The causes for which an image, or its manifest, cannot be read, and their wording. A cause carries
what its wording needs and nothing else.
-/

namespace FpgaHost

/-- Why a manifest, or a table beside it, is refused. -/
inductive ManifestError where
  /-- The payload is no text. -/
  | notText (cause : Utf8.DecodeError)
  /-- The text is no document. -/
  | notDocument
  /-- The outermost element has another tag than `project`. -/
  | wrongRoot (tag : String)
  /-- No element with this tag where one must be. -/
  | missingElement (tag : String)
  /-- An element without an attribute it must have. -/
  | missingAttribute (tag name : String)
  /-- The identifier of an argument is no numeral. -/
  | invalidId (argument id : String)
  /-- Two arguments of a kernel have one index. -/
  | duplicateIndex (index : Nat) (kernel : String)
  /-- No kernel is declared. -/
  | noKernel
  /-- A table announces a negative number of records. -/
  | negativeCount (table : String) (count : Int)
  /-- A reason given by the reader of another format. -/
  | reported (reason : String)
  deriving DecidableEq, Repr

/-- The wording of a manifest error. -/
def ManifestError.message : ManifestError → String
  | .notText cause => s!"not UTF-8: {cause.message}"
  | .notDocument => "XML parse error"
  | .wrongRoot tag => s!"root element is <{tag}>, expected <project>"
  | .missingElement tag => s!"missing <{tag}> element"
  | .missingAttribute tag name => s!"<{tag}> without {name} attribute"
  | .invalidId argument id => s!"argument {argument} has invalid id '{id}'"
  | .duplicateIndex index kernel => s!"duplicate argument index {index} in kernel {kernel}"
  | .noKernel => "no <kernel> element"
  | .negativeCount table count => s!"{table} has negative count {count}"
  | .reported reason => reason

/-- Why the operating system refuses a file. -/
inductive FileError where
  /-- There is no such file or directory. -/
  | absent
  /-- The path is a directory. -/
  | isDirectory
  /-- The path goes on behind something that is no directory. -/
  | notDirectory
  /-- The path, or a name in it, is too long. -/
  | nameTooLong
  /-- Any other reason, in the system's words. -/
  | other (reason : String)
  deriving DecidableEq, Repr

/-- The wording of a file error. -/
def FileError.message : FileError → String
  | .absent => "No such file or directory (os error 2)"
  | .isDirectory => "Is a directory (os error 21)"
  | .notDirectory => "Not a directory (os error 20)"
  | .nameTooLong => "File name too long (os error 36)"
  | .other reason => reason

/-- Why an image is refused. -/
inductive ImageError where
  /-- The magic bytes are missing. -/
  | notRecognized
  /-- None of `tried` formats is that of these `size` bytes. -/
  | unrecognizedFormat (size tried : Nat)
  /-- The bytes end before a field does. -/
  | truncated (field : String) (offset needed available : Nat)
  /-- The mode code has no meaning. -/
  | unknownMode (code : UInt16)
  /-- A section that must be there is not. -/
  | missingSection (kind : SectionKind)
  /-- A section does not lie inside the image. -/
  | sectionOutOfBounds (kind : SectionKind) (offset size imageSize : Nat)
  /-- The manifest is refused. -/
  | manifest (cause : ManifestError)
  /-- There is no file at the path. -/
  | fileNotFound (path : String)
  /-- The file cannot be read. -/
  | unreadable (cause : FileError)
  deriving DecidableEq, Repr

namespace ImageError

/-- The wording of an image error. -/
def message : ImageError → String
  | notRecognized => "Not an xclbin2 image"
  | unrecognizedFormat size tried =>
    s!"Unrecognized accelerator image ({size} bytes, tried {tried} format(s))"
  | truncated field offset needed available =>
    s!"Truncated image: {field} needs {needed} bytes at offset {offset}, {available} available"
  | unknownMode code => s!"Unknown xclbin mode: {code}"
  | missingSection kind =>
    s!"Missing {kind.name} section: cannot determine kernel name from binary"
  | sectionOutOfBounds kind offset size imageSize =>
    s!"{kind.name} section [{offset}, +{size}) exceeds image of {imageSize} bytes"
  | manifest cause => s!"Invalid embedded metadata: {cause.message}"
  | fileNotFound path => s!"Image file not found: {path}"
  | unreadable cause => s!"I/O error: {cause.message}"

/-- Whether the bytes are of another format. -/
def isNotRecognized : ImageError → Bool
  | notRecognized => true
  | _ => false

/-- The messages of an error and of what caused it, outermost first. -/
def chain : ImageError → List String
  | unreadable cause => [message (unreadable cause), cause.message]
  | e => [e.message]

end ImageError

end FpgaHost
