/-
  Texts in bytes: which byte strings are well formed, and
  how a malformed one is shown.

  Key definitions include:
    * `Text.decodeBytes`
    * `Text.ofBytes?`
    * `Text.ofBytesLossy`
-/

namespace BlockVolumes

namespace Text

/- A byte inside a longer sequence. -/
def isContinuation
    (b : UInt8) : Bool :=
  0x80 ≤ b && b ≤ 0xbf

/- The low six bits of a byte inside a sequence. -/
def payload
    (b : UInt8) : Nat :=
  b.toNat % 64

/-
  Whether a second byte may follow a first byte of a sequence
  of three or four: overlong forms, surrogates and values
  above the last character are excluded here.
-/
def mayFollow
    (first second : UInt8) : Bool :=
  if first == 0xe0 then
    0xa0 ≤ second && second ≤ 0xbf
  else if first == 0xed then
    0x80 ≤ second && second ≤ 0x9f
  else if first == 0xf0 then
    0x90 ≤ second && second ≤ 0xbf
  else if first == 0xf4 then
    0x80 ≤ second && second ≤ 0x8f
  else
    isContinuation second

/-
  The characters of a byte string. Each `none` stands for one
  longest beginning of a sequence that the next byte, or the
  end, breaks off.
-/
def decodeBytes : List UInt8 → List (Option Char)
  | [] => []
  | a :: rest =>
      if a < 0x80 then
        some (Char.ofNat a.toNat) :: decodeBytes rest
      else if 0xc2 ≤ a && a ≤ 0xdf then
        match rest with
        | [] => [none]
        | b :: rest' =>
            if isContinuation b then
              some (Char.ofNat
                ((a.toNat - 0xc0) * 64 + payload b)) ::
                decodeBytes rest'
            else
              none :: decodeBytes (b :: rest')
      else if 0xe0 ≤ a && a ≤ 0xef then
        match rest with
        | [] => [none]
        | b :: rest' =>
            if mayFollow a b then
              match rest' with
              | [] => [none]
              | c :: rest'' =>
                  if isContinuation c then
                    some (Char.ofNat
                      (((a.toNat - 0xe0) * 64 + payload b) * 64
                        + payload c)) ::
                      decodeBytes rest''
                  else
                    none :: decodeBytes (c :: rest'')
            else
              none :: decodeBytes (b :: rest')
      else if 0xf0 ≤ a && a ≤ 0xf4 then
        match rest with
        | [] => [none]
        | b :: rest' =>
            if mayFollow a b then
              match rest' with
              | [] => [none]
              | c :: rest'' =>
                  if isContinuation c then
                    match rest'' with
                    | [] => [none]
                    | d :: rest''' =>
                        if isContinuation d then
                          some (Char.ofNat
                            ((((a.toNat - 0xf0) * 64 + payload b)
                              * 64 + payload c) * 64
                              + payload d)) ::
                            decodeBytes rest'''
                        else
                          none :: decodeBytes (d :: rest''')
                  else
                    none :: decodeBytes (c :: rest'')
            else
              none :: decodeBytes (b :: rest')
      else
        none :: decodeBytes rest
termination_by bytes => bytes.length

/- The text of a well formed byte string. -/
def ofBytes?
    (bytes : List UInt8) : Option String :=
  ((decodeBytes bytes).mapM id).map String.ofList

/-
  The text of any byte string: each malformed piece is shown
  as one replacement character.
-/
def ofBytesLossy
    (bytes : List UInt8) : String :=
  String.ofList
    ((decodeBytes bytes).map fun c => c.getD '\ufffd')

end Text

end BlockVolumes
