import RavenBinding.Fault
import RavenBinding.Text.Charset.Hanzi
import RavenBinding.Text.Charset.Kanji

/-!
# Charsets with escape sequences

Some charsets write everything in seven bits. Sequences of bytes announce which set the bytes behind
them belong to.

## Main definitions

- `Escaped.decode`: reading step by step, with the set that is in force
- `Escaped.decodeKanji`, `Escaped.decodeHanzi`: reading bytes
-/

namespace RavenBinding

namespace Escaped

/-- What a step reads: characters, what is in force behind them, and the number of bytes. -/
structure Step (σ : Type) where
  text : Text
  state : σ
  length : Nat

/-- A step over bytes that are out of place. -/
def Step.wrong {σ : Type} (state : σ) (length : Nat) : Step σ :=
  ⟨[CodePoint.replacement], state, length⟩

/-- A step over one character. -/
def Step.character {σ : Type} (c : CodePoint) (state : σ) (length : Nat) : Step σ :=
  ⟨[c], state, length⟩

/-- A step over the character that was found, or over bytes that are out of place. -/
def Step.ofFound {σ : Type} (c : Option CodePoint) (state : σ) (length wrongLength : Nat) :
    Step σ :=
  match c with
  | some c => character c state length
  | none => wrong state wrongLength

/-- Reads step by step; `text` holds what was read, reversed. -/
def decodeLoop {σ : Type} (step : σ → List Nat → Except Fault (Step σ)) (state : σ) (text : Text) :
    List Nat → Except Fault Text
  | [] => .ok text.reverse
  | b :: rest =>
    match step state (b :: rest) with
    | .error f => .error f
    | .ok s => decodeLoop step s.state (s.text.reverse ++ text) (rest.drop (s.length - 1))
termination_by bytes => bytes.length
decreasing_by
  simp only [List.length_drop, List.length_cons]
  omega

/-- The text of some bytes, read from a first state on. -/
def decode {σ : Type} (step : σ → List Nat → Except Fault (Step σ)) (start : σ) (bytes : Bytes) :
    Except Fault Text :=
  decodeLoop step start [] (bytes.map UInt8.toNat)

/-- The sets of the Japanese charset. -/
inductive KanjiSet where
  | ascii
  /-- ASCII with a yen sign and an overline. -/
  | roman
  | kanji
  deriving DecidableEq, Repr

/-- The set in force, and whether a foreign sequence is being passed on. -/
structure KanjiState where
  set : KanjiSet
  isForeign : Bool

/-- The last byte of an escape sequence. -/
def isFinal (b : Nat) : Bool := 0x40 ≤ b && b ≤ 0x5A

/-- The length of an escape sequence from its bytes behind position `i`: `none` if it goes on behind
the end, and no length if it is longer than 16 bytes. -/
def sequenceLength (i : Nat) : List Nat → Option (Option Nat)
  | [] => if 16 ≤ i then some none else none
  | b :: rest =>
    if 16 ≤ i then some none
    else if isFinal b then some (some (i + 1))
    else
      match rest with
      | [] => sequenceLength (i + 1) []
      | c :: after =>
        if b = 0x26 && c = 0x40 then sequenceLength (i + 3) (after.drop 1)
        else sequenceLength (i + 1) (c :: after)
termination_by bytes => bytes.length
decreasing_by
  · simp
  · simp only [List.length_drop, List.length_cons]
    omega
  · simp

/-- The set that an escape sequence puts in force, given without its first byte; two bytes in front
name its edition. A second set may be named too, which is never in force. -/
def designated? : List Nat → Option (Option KanjiSet)
  | [0x28, 0x42] => some (some .ascii)
  | [0x28, 0x4A] => some (some .roman)
  | [0x24, 0x42] | [0x24, 0x40] | [0x24, 0x28, 0x42] | [0x24, 0x28, 0x40]
  | [_, _, 0x1B, 0x24, 0x42] => some (some .kanji)
  | [0x29, 0x42] | [0x29, 0x4A] | [0x24, 0x29, 0x42] | [0x24, 0x29, 0x40] => some none
  | _ => none

/-- The fault of a sequence that is not complete and holds more than 8 bytes. -/
def overflow : Fault := ⟨.unicodeError, "pending buffer overflow"⟩

/-- A step over an escape sequence, given without its first byte. -/
def stepSequence (state : KanjiState) (rest : List Nat) : Except Fault (Step KanjiState) :=
  match sequenceLength 1 rest with
  | none => if 8 ≤ rest.length then .error overflow else .ok (.wrong state (rest.length + 1))
  | some none => .ok (.wrong state 1)
  | some (some length) =>
    match designated? (rest.take (length - 1)) with
    | some set => .ok ⟨[], { state with set := set.getD state.set }, length⟩
    | none => .ok (.wrong state length)

/-- A step in a set. -/
def stepSet (main : CharacterTable) (state : KanjiState) (b : Nat) (rest : List Nat) :
    Step KanjiState :=
  match state.set with
  | .ascii => .character (CodePoint.ofNat b) state 1
  | .roman =>
    let c := if b = 0x5C then 0xA5 else if b = 0x7E then 0x203E else b
    .character (CodePoint.ofNat c) state 1
  | .kanji =>
    match rest with
    | [] => .wrong state 1
    | c :: _ => .ofFound (main.findSquare? 0x21 b c) state 2 2

/-- A step in the Japanese charset. -/
def stepKanji (main : CharacterTable) (state : KanjiState) :
    List Nat → Except Fault (Step KanjiState)
  | [] => .ok (.wrong state 1)
  | b :: rest =>
    if state.isForeign then
      .ok (.character (CodePoint.ofNat b) { state with isForeign := !isFinal b } 1)
    else if b = 0x1B then
      match rest with
      | [] => .ok (.wrong state 1)
      | c :: _ =>
        if [0x24, 0x26, 0x28, 0x29, 0x2E].contains c then stepSequence state rest
        else .ok (.character (CodePoint.ofNat b) { state with isForeign := true } 1)
    else if b < 0x20 then .ok (.character (CodePoint.ofNat b) state 1)
    else if 0x80 ≤ b then .ok (.wrong state 1)
    else .ok (stepSet main state b rest)

/-- The text of bytes in the Japanese charset with escape sequences. -/
def decodeKanji (bytes : Bytes) : Except Fault Text :=
  let main := CharacterTable.ofRuns Kanji.mainRuns
  decode (stepKanji main) ⟨.ascii, false⟩ bytes

/-- A step in the Chinese charset whose sequences begin with a tilde; `inHanzi` tells the set. -/
def stepHanzi (main : CharacterTable) (inHanzi : Bool) : List Nat → Step Bool
  | [] => .wrong inHanzi 1
  | b :: rest =>
    if 0x80 ≤ b then .wrong inHanzi 1
    else if b = 0x7E then
      match inHanzi, rest with
      | _, [] => .wrong inHanzi 1
      | false, 0x7E :: _ => .character (CodePoint.ofNat b) inHanzi 2
      | false, 0x0A :: _ => ⟨[], false, 2⟩
      | false, 0x7B :: _ => ⟨[], true, 2⟩
      | true, 0x7D :: _ => ⟨[], false, 2⟩
      | _, _ :: _ => .wrong inHanzi 1
    else if inHanzi then
      match rest with
      | [] => .wrong inHanzi 1
      | c :: _ => .ofFound (main.findSquare? 0x21 b c) inHanzi 2 1
    else .character (CodePoint.ofNat b) inHanzi 1

/-- The text of bytes in the Chinese charset with escape sequences. -/
def decodeHanzi (bytes : Bytes) : Except Fault Text :=
  let main := CharacterTable.ofRuns Hanzi.mainRuns
  decode (fun inHanzi rest => .ok (stepHanzi main inHanzi rest)) false bytes

end Escaped

end RavenBinding
