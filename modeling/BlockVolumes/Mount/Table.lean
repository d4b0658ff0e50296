import BlockVolumes.Mount.Error
import BlockVolumes.Mount.Point
import BlockVolumes.Text.Numeral
import BlockVolumes.Text.Utf8

/-
  The mount table of the system as a text: a line of six
  fields for each mount point.

  Key definitions include:
    * `Mount.readPoint`
    * `Mount.readTable`
    * `Mount.Fields`
-/

namespace BlockVolumes

namespace Mount

/- The six fields of a line. -/
structure Fields where
  device : String
  path : String
  filesystem : String
  options : String
  dumpInterval : String
  checkOrder : String
  deriving DecidableEq, Repr

/- The number of fields of a line. -/
def Fields.count : Nat := 6

/- The words of a line as its fields. -/
def readFields : List String → Except Error Fields
  | [device, path, filesystem, options, dumpInterval, checkOrder] =>
      .ok
        { device := device
          path := path
          filesystem := filesystem
          options := options
          dumpInterval := dumpInterval
          checkOrder := checkOrder }
  | words =>
      .error (.ofText
        ("wrong number of fields (expected " ++
          toString Fields.count ++ ", got " ++
          toString words.length ++ ")"))

/- A number of 64 bits with a sign. -/
def readNumber
    (field text : String) : Except Error Int :=
  match Text.readInteger (Nat.pow 2 63 - 1) text with
  | .ok n => .ok n
  | .error cause =>
      .error (.ofText
        ("invalid " ++ field ++ ": " ++ cause.describe))

/- The mount point that a line describes. -/
def readPoint
    (line : String) : Except Error Point := do
  let fields ← readFields (Text.words line)
  let dumpInterval ← readNumber "freq" fields.dumpInterval
  let checkOrder ← readNumber "pass" fields.checkOrder
  return {
    device := ⟨fields.device⟩
    path := ⟨fields.path⟩
    filesystem := fields.filesystem
    options := Text.splitAtEvery ',' fields.options
    dumpInterval := dumpInterval
    checkOrder := checkOrder }

/-
  The mount points of a table, one for each line that is not
  empty. The first wrong line is reported.
-/
def readTable
    (content : List UInt8) : Except Error (List Point) :=
  match Text.ofBytes? content with
  | none => .error (.ofText "proc mounts contain invalid UTF8")
  | some text =>
      ((Text.lines text).filter (! ·.isEmpty)).mapM readPoint

end Mount

end BlockVolumes
