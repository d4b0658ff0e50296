import BlockVolumes.Files.Path
import BlockVolumes.Text.Utf8

/-
  Paths as the system has them. The name of a file is made of
  any bytes but slashes and zeros, and need not be a text in
  UTF-8, so that a `Path` can lead to a place that is none.

  Key definitions include:
    * `RawPath`
    * `RawPath.ofText`
    * `RawPath.shown`
    * `RawPath.Same`
    * `Path.raw`
-/

namespace BlockVolumes

/- A path as it is written in bytes. -/
structure RawPath where
  bytes : List UInt8
  deriving DecidableEq, Repr

namespace RawPath

/- The path with the bytes of a text. -/
def ofText
    (text : String) : RawPath :=
  ⟨text.toList.flatMap String.utf8EncodeChar⟩

/- The path in messages, where it has to be a text. -/
def shown
    (path : RawPath) : String :=
  Text.ofBytesLossy path.bytes

/-
  The path with one character for each byte. The bytes of a
  slash and of a dot are their values as characters, so that it
  is cut into components where the bytes are.
-/
def bytewise
    (path : RawPath) : Path :=
  ⟨String.ofList
    (path.bytes.map fun byte => Char.ofNat byte.toNat)⟩

/- Two paths are the same when their components are. -/
def Same
    (p q : RawPath) : Prop :=
  Path.Same p.bytewise q.bytewise

instance
    (p q : RawPath) :
    Decidable (Same p q) := by
  unfold Same
  infer_instance

end RawPath

/- The path in bytes. -/
def Path.raw
    (path : Path) : RawPath :=
  .ofText path.text

end BlockVolumes
