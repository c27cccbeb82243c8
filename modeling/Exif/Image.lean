import Exif.FileFormat
import Exif.FileTree
import Exif.Metadata.Directories
import Exif.TagStore
import Exif.TiffHeader

/-!
Reading the tags of a picture file. One of two decoders turns the bytes of the file into metadata;
what each of them gives for a file is part of the file here.
-/

namespace Exif

inductive Decoder
  | listing
  | directories
deriving DecidableEq, Repr

def Decoder.name : Decoder → String
  | listing => "exifread"
  | directories => "pillow"

inductive Backend
  | auto
  | fixed (decoder : Decoder)
deriving DecidableEq, Repr

namespace Backend

def all : List Backend := [auto, fixed .listing, fixed .directories]

def name : Backend → String
  | auto => "auto"
  | fixed d => d.name

def ofDatum? : Datum → Option Backend
  | .text s => all.find? fun b => b.name = s
  | _ => none

def namesLiteral : String := "(" ++ ", ".intercalate (all.map fun b => Text.quoted b.name) ++ ")"

/-- The decoder for a path. Raw and HEIF files need the one that lists fields. -/
def decoder (b : Backend) (p : Path) : Decoder :=
  match b with
  | fixed d => d
  | auto =>
    let format := FileFormat.ofPath p
    if format.isRaw || format = .heic || format = .heif then .listing else .directories

end Backend

/-- How a decoder fails: with an import error, which names a path, or with an error of a kind of its
own. -/
inductive DecoderError
  | refused (path : Path) (reason : String)
  | broken (kind message : String)

/-- The directories that a decoder gives: those after the first may fail when asked for. -/
structure Directories where
  image : List DirectoryEntry
  exif : Except DecoderError (List DirectoryEntry)
  thumbnail : Except DecoderError (List DirectoryEntry)

/-- A picture file: its bytes, and what either decoder gives for them. There may be no
directories. -/
structure Image where
  bytes : List UInt8
  listing : Except DecoderError Listing
  directories : Except DecoderError (Option Directories)

inductive CollectionError
  | decoder (e : DecoderError)
  | conversion (e : ConversionError)

/-- Reads the directories; without an entry in the first the others are not asked for. -/
def Directories.collect (d : Directories) : Except CollectionError Collected :=
  if d.image.isEmpty then .ok .empty
  else do
    let exif ← d.exif.mapError .decoder
    let thumbnail ← d.thumbnail.mapError .decoder
    (DirectoryLists.collect ⟨d.image, exif, thumbnail⟩).mapError .conversion

def Image.collect (i : Image) : Decoder → Except CollectionError Collected
  | .listing => do
    let entries ← i.listing.mapError .decoder
    (Listing.collect entries).mapError .conversion
  | .directories => do
    match ← i.directories.mapError .decoder with
    | some d => d.collect
    | none => .ok .empty

inductive ImportReason
  | notAFile
  | emptyFile
  | refused (path : Path) (reason : String)
  | broken (decoder : Decoder) (kind message : String)
  | conversion (decoder : Decoder) (e : ConversionError)
  | noData

def ImportReason.text : ImportReason → String
  | notAFile => "file not found or not a file"
  | emptyFile => "file is empty"
  | refused _ reason => reason
  | broken d _ message => d.name ++ " failed: " ++ message
  | conversion d e => d.name ++ " failed: " ++ e.message
  | noData => "no EXIF data found"

/-- The path that an import error names: that of the file, unless the decoder has named one. -/
def ImportReason.named (file : Path) : ImportReason → Path
  | refused path _ => path
  | _ => file

/-- Why reading failed: the backend is none, the path is refused, or the file gives no store. -/
inductive ReadError
  | unknownBackend (given : Datum)
  | path (e : PathError)
  | importFailed (path : Path) (reason : ImportReason)

def ReadError.message : ReadError → String
  | unknownBackend given =>
    given.literalOrFault fun literal =>
      "Unknown EXIF reader backend: " ++ literal ++ " (expected one of " ++ Backend.namesLiteral ++ ")"
  | path e => e.message
  | importFailed p reason => importMessage (reason.named p).text reason.text

def CollectionError.reason (d : Decoder) : CollectionError → ImportReason
  | decoder (.refused path reason) => .refused path reason
  | decoder (.broken kind message) => .broken d kind message
  | conversion e => .conversion d e

def Image.store (i : Image) (d : Decoder) (p : Path) : Except ImportReason TagStore := do
  let values ← (i.collect d).mapError (CollectionError.reason d)
  if values.entries.isEmpty then .error .noData
  else .ok (.ofMap (values.mapValues TagValue.toDatum) (TiffHeader.locate i.bytes) (some p))

structure Reading where
  called : List Decoder
  result : Except ReadError TagStore

def readTagStore (backend : Datum) (path : Path) (state : PathState Image) : Reading :=
  match Backend.ofDatum? backend with
  | none => ⟨[], .error (.unknownBackend backend)⟩
  | some b =>
    match state with
    | .missing | .directory => ⟨[], .error (.importFailed path .notAFile)⟩
    | .refused e => ⟨[], .error (.path e)⟩
    | .file image =>
      if image.bytes.isEmpty then ⟨[], .error (.importFailed path .emptyFile)⟩
      else
        let d := b.decoder path
        ⟨[d], (image.store d path).mapError (.importFailed path)⟩

end Exif
