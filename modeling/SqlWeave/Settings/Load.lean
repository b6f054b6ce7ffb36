import SqlWeave.Document.Json
import SqlWeave.Document.Merge
import SqlWeave.Settings.Basic
import SqlWeave.Toml.Reader

/-!
# Loading settings

Settings are loaded from TOML or JSON.  What is given is laid over the standard
settings, so a file only needs to say what differs from them.  How a text is read
as a document is a parameter, `SettingsReaders`; `SettingsReaders.standard` has
the readers of this library.
-/

namespace SqlWeave

/-- The format of settings. -/
inductive SettingsFormat where
  | toml
  | json
  deriving DecidableEq, Repr

namespace SettingsFormat

/-- The name of the format. -/
def name : SettingsFormat → String
  | toml => "TOML"
  | json => "JSON"

end SettingsFormat

/-- The readers of the formats.  A text that is not in the format has no
document. -/
structure SettingsReaders where
  toml : String → Option Document
  json : String → Option Document

namespace SettingsReaders

def standard : SettingsReaders := ⟨Toml.read?, Document.Json.read?⟩

/-- Read a text in the format. -/
def read? (readers : SettingsReaders) :
    SettingsFormat → String → Option Document
  | .toml => readers.toml
  | .json => readers.json

end SettingsReaders

/-- A settings file.  A file that does not exist has no content. -/
structure SettingsFile where
  path : String
  content : Option ByteArray

/-- Why a file cannot be read. -/
inductive FileFailure where
  | missing
  | notUtf8
  deriving DecidableEq, Repr

/-- The wording of a file failure. -/
def FileFailure.message : FileFailure → String
  | missing => "No such file or directory (os error 2)"
  | notUtf8 => "stream did not contain valid UTF-8"

/-- An error of loading settings. -/
inductive SettingsError where
  /-- The text is not in the format. -/
  | malformed (format : SettingsFormat)
  | unreadable (format : SettingsFormat) (path : String)
      (failure : FileFailure)
  /-- The document has another shape than settings. -/
  | misshapen (format : SettingsFormat) (mismatch : ShapeError)
  deriving DecidableEq, Repr

/-- The wording of an error. -/
def SettingsError.message : SettingsError → String
  | malformed format => "Configuration error: Failed to parse " ++ format.name
  | unreadable format path failure =>
      "Configuration error: Failed to read " ++ format.name ++ " file '" ++
        path ++ "': " ++ failure.message
  | misshapen format mismatch =>
      "Configuration error: Failed to deserialize settings from " ++
        format.name ++ ": " ++ mismatch.message

/-- The text of a file. -/
def SettingsFile.text (file : SettingsFile) : Except FileFailure String :=
  match file.content with
  | none => .error .missing
  | some content =>
      match String.fromUTF8? content with
      | some text => .ok text
      | none => .error .notUtf8

namespace Settings

/-- The settings that a document gives, laid over the standard ones. -/
def ofDocument (document : Document) : Except ShapeError Settings :=
  decode (standard.toDocument.merge document)

variable (readers : SettingsReaders)

/-- The settings that a text gives. -/
def ofText (format : SettingsFormat) (source : String) :
    Except SettingsError Settings :=
  match readers.read? format source with
  | some document => (ofDocument document).mapError (.misshapen format)
  | none => .error (.malformed format)

/-- The settings that a file gives. -/
def ofFile (format : SettingsFormat) (file : SettingsFile) :
    Except SettingsError Settings :=
  match file.text with
  | .ok text => ofText readers format text
  | .error failure => .error (.unreadable format file.path failure)

end Settings

end SqlWeave
