import Mailshot.Text.Index.Big5
import Mailshot.Text.Index.Gb18030
import Mailshot.Text.Index.Jis0208
import Mailshot.Text.Index.Jis0212
import Mailshot.Text.Index.Korean

/-!
# Character sets of more than one byte

The character sets of East Asia.  A character of ASCII is one byte in all of them, and any other is
usually two, a lead and a trail.  Each set is an `Automaton`, which takes one byte after the other
and remembers what it has of a character that is not complete.

A byte of ASCII that cannot belong to the character before it stands for itself, so that no error
hides what comes behind it.
-/

set_option autoImplicit false

namespace Mailshot
namespace Charset

/-- A way to decode bytes one after the other. -/
structure Automaton where
  /-- What it remembers. -/
  State : Type
  /-- What it remembers at the start. -/
  start : State
  /-- What it makes of one more byte: characters, and what it remembers then. -/
  step : State → Nat → List Char × State
  /-- What it makes of the end. -/
  finish : State → List Char

namespace Automaton

/-- Decodes bytes, with something in mind. -/
def runFrom (a : Automaton) (s : a.State) : List UInt8 → List Char
  | [] => a.finish s
  | b :: bs =>
    let (cs, s) := a.step s b.toNat
    cs ++ a.runFrom s bs

/-- Decodes bytes. -/
def run (a : Automaton) (bytes : List UInt8) : List Char := a.runFrom a.start bytes

end Automaton

/-- Whether a byte is one of ASCII. -/
def isAsciiByte (b : Nat) : Bool := b < 0x80

/-- Whether a byte lies in a range. -/
def within (low high b : Nat) : Bool := low ≤ b && b ≤ high

/-- What is left of two bytes that are no character: an error, and the second byte if it is
ASCII. -/
def broken (trail : Nat) : List Char :=
  if isAsciiByte trail then [replacement, Char.ofNat trail] else [replacement]

/-- An error if a character is not complete at the end. -/
def cutOff {α : Type} (pending : Option α) : List Char :=
  if pending.isSome then [replacement] else []

/-! ## Pairs -/

/-- The automaton of a set in which every character is a byte or a pair of bytes. -/
def pairs (isLead : Nat → Bool) (single? : Nat → Option Char)
    (pair? : Nat → Nat → Option (List Char)) : Automaton where
  State := Option Nat
  start := none
  step
    | none, b =>
      if isLead b then ([], some b)
      else if isAsciiByte b then ([Char.ofNat b], none)
      else ([(single? b).getD replacement], none)
    | some lead, trail => ((pair? lead trail).getD (broken trail), none)
  finish := cutOff

/-- The automaton of Big5, with the characters of Hong Kong; four pairs are a letter with an accent
that is written as two characters. -/
def big5Automaton : Automaton :=
  pairs (within 0x81 0xFE) (fun _ => none) fun lead trail =>
    let n := (lead - 0x81) * 157 + (trail - (if trail < 0x7F then 0x40 else 0x62))
    if !within 0x40 0x7E trail && !within 0xA1 0xFE trail then none
    else if n = 1133 then some ['Ê', '\u0304']
    else if n = 1135 then some ['Ê', '\u030c']
    else if n = 1164 then some ['ê', '\u0304']
    else if n = 1166 then some ['ê', '\u030c']
    else (big5.find? n).map ([·])

/-- The automaton of EUC-KR. -/
def eucKrAutomaton : Automaton :=
  pairs (within 0x81 0xFE) (fun _ => none) fun lead trail =>
    if within 0x41 0xFE trail then
      (korean.find? ((lead - 0x81) * 190 + (trail - 0x41))).map ([·])
    else none

/-- A kana of half width. -/
def halfKana (place : Nat) : Char := Char.ofNat (0xFF61 + place)

/-- The automaton of Shift_JIS. -/
def shiftJisAutomaton : Automaton :=
  pairs (fun b => within 0x81 0x9F b || within 0xE0 0xFC b)
    (fun b =>
      if b = 0x80 then some '\x80'
      else if within 0xA1 0xDF b then some (halfKana (b - 0xA1))
      else none)
    fun lead trail =>
      let row := lead - (if lead < 0xA0 then 0x81 else 0xC1)
      let n := row * 188 + (trail - (if trail < 0x7F then 0x40 else 0x41))
      if !within 0x40 0x7E trail && !within 0x80 0xFC trail then none
      else if within 8836 10715 n then some [Char.ofNat (0xE000 + (n - 8836))]
      else (jis0208.find? n).map ([·])

/-! ## EUC-JP -/

/-- The automaton of EUC-JP.  It remembers a lead, and whether the character is one of the second
index. -/
def eucJpAutomaton : Automaton where
  State := Option (Nat × Bool)
  start := none
  step
    | none, b =>
      if isAsciiByte b then ([Char.ofNat b], none)
      else if b = 0x8E || b = 0x8F || within 0xA1 0xFE b then ([], some (b, false))
      else ([replacement], none)
    | some (lead, second), b =>
      if lead = 0x8E && within 0xA1 0xDF b then ([halfKana (b - 0xA1)], none)
      else if lead = 0x8F && within 0xA1 0xFE b then ([], some (b, true))
      else
        let index := if second then jis0212 else jis0208
        let found :=
          if within 0xA1 0xFE lead && within 0xA1 0xFE b then
            index.find? ((lead - 0xA1) * 94 + (b - 0xA1))
          else none
        ((found.map ([·])).getD (broken b), none)
  finish := cutOff

/-! ## GB 18030 -/

/-- What is remembered of a character in GB 18030. -/
inductive GbState where
  /-- Nothing. -/
  | empty
  /-- The first byte. -/
  | one (a : Nat)
  /-- Two bytes of four. -/
  | two (a b : Nat)
  /-- Three bytes of four. -/
  | three (a b c : Nat)
deriving DecidableEq, Inhabited

namespace GbState

/-- The byte at the start of a character. -/
def first (b : Nat) : List Char × GbState :=
  if isAsciiByte b then ([Char.ofNat b], empty)
  else if b = 0x80 then (['€'], empty)
  else if b = 0xFF then ([replacement], empty)
  else ([], one b)

/-- The second byte of a character. -/
def second (a b : Nat) : List Char × GbState :=
  if within 0x30 0x39 b then ([], two a b)
  else
    let n := (a - 0x81) * 190 + (b - (if b < 0x7F then 0x40 else 0x41))
    let found := if within 0x40 0x7E b || within 0x80 0xFE b then gb18030.find? n else none
    ((found.map ([·])).getD (broken b), empty)

/-- The third byte of four.  If it is none, the second byte, a digit, stands for itself. -/
def third (a b c : Nat) : List Char × GbState :=
  if within 0x81 0xFE c then ([], three a b c)
  else
    let (cs, s) := first c
    (replacement :: Char.ofNat b :: cs, s)

/-- The fourth byte of four.  If it is none, the second byte stands for itself and the third one
starts a character. -/
def fourth (a b c d : Nat) : List Char × GbState :=
  if within 0x30 0x39 d then
    let n := ((a - 0x81) * 10 + (b - 0x30)) * 1260 + (c - 0x81) * 10 + (d - 0x30)
    ([(otherGb18030? n).getD replacement], empty)
  else
    let (cs, s) := second c d
    (replacement :: Char.ofNat b :: cs, s)

end GbState

/-- The automaton of GB 18030, which reads the sets of China that came before it as well. -/
def gb18030Automaton : Automaton where
  State := GbState
  start := .empty
  step
    | .empty, b => GbState.first b
    | .one a, b => GbState.second a b
    | .two a b, c => GbState.third a b c
    | .three a b c, d => GbState.fourth a b c d
  finish s := if s = .empty then [] else [replacement]

/-! ## ISO-2022-JP -/

/-- What bytes stand for in ISO-2022-JP, until an escape changes it. -/
inductive JisMode where
  /-- ASCII. -/
  | ascii
  /-- ASCII with a yen sign and an overline. -/
  | roman
  /-- Kana of half width. -/
  | katakana
  /-- Pairs of bytes for characters of the first index. -/
  | kanji
deriving DecidableEq, Inhabited

/-- What is not complete in ISO-2022-JP. -/
inductive JisPending where
  /-- Nothing. -/
  | nothing
  /-- A character, of which the lead is there. -/
  | lead (b : Nat)
  /-- An escape. -/
  | escape
  /-- An escape, with its first byte. -/
  | escapeWith (b : Nat)
deriving DecidableEq, Inhabited

/-- What is remembered in ISO-2022-JP. -/
structure JisState where
  /-- What bytes stand for. -/
  mode : JisMode
  /-- What is not complete. -/
  pending : JisPending
  /-- Whether an escape was the last thing that was read. -/
  escaped : Bool
deriving DecidableEq, Inhabited

namespace JisState

/-- One byte where nothing is pending. -/
def plain (s : JisState) (b : Nat) : List Char × JisState :=
  let calm := { s with pending := JisPending.nothing, escaped := false }
  if b = 0x1B then ([], { s with pending := .escape })
  else
    let isText := isAsciiByte b && b ≠ 0x0E && b ≠ 0x0F
    match s.mode with
    | .ascii => (if isText then [Char.ofNat b] else [replacement], calm)
    | .roman =>
      let c := if b = 0x5C then '¥' else if b = 0x7E then '‾' else Char.ofNat b
      (if isText then [c] else [replacement], calm)
    | .katakana => (if within 0x21 0x5F b then [halfKana (b - 0x21)] else [replacement], calm)
    | .kanji =>
      if within 0x21 0x7E b then ([], { calm with pending := .lead b }) else ([replacement], calm)

/-- The byte behind a lead. -/
def trail (s : JisState) (lead b : Nat) : List Char × JisState :=
  if b = 0x1B then ([replacement], { s with pending := .escape })
  else
    let found :=
      if within 0x21 0x7E b then jis0208.find? ((lead - 0x21) * 94 + (b - 0x21)) else none
    ([found.getD replacement], { s with pending := .nothing })

/-- What an escape of two bytes changes to. -/
def modeOf? (a b : Nat) : Option JisMode :=
  if a = 0x28 ∧ b = 0x42 then some .ascii
  else if a = 0x28 ∧ b = 0x4A then some .roman
  else if a = 0x28 ∧ b = 0x49 then some .katakana
  else if a = 0x24 ∧ (b = 0x40 ∨ b = 0x42) then some .kanji
  else none

/-- The first byte of an escape.  If it is none, it is read as any other byte. -/
def escapeFirst (s : JisState) (b : Nat) : List Char × JisState :=
  if b = 0x24 ∨ b = 0x28 then ([], { s with pending := .escapeWith b })
  else
    let (cs, s) := plain { s with pending := .nothing, escaped := false } b
    (replacement :: cs, s)

/-- One byte, a character or a part of one, behind any but an escape. -/
def next (s : JisState) (b : Nat) : List Char × JisState :=
  match s.pending with
  | .lead lead => trail s lead b
  | _ => plain s b

/-- The second byte of an escape.  If there is no such escape, both its bytes are read as any other;
and two escapes with nothing between them are an error. -/
def escapeSecond (s : JisState) (a b : Nat) : List Char × JisState :=
  match modeOf? a b with
  | some mode => (if s.escaped then [replacement] else [], ⟨mode, .nothing, true⟩)
  | none =>
    let (cs, s) := plain { s with pending := .nothing, escaped := false } a
    let (ds, s) := next s b
    (replacement :: (cs ++ ds), s)

/-- One byte. -/
def step (s : JisState) (b : Nat) : List Char × JisState :=
  match s.pending with
  | .escape => escapeFirst s b
  | .escapeWith a => escapeSecond s a b
  | _ => next s b

/-- The end. -/
def finish (s : JisState) : List Char :=
  match s.pending with
  | .nothing => []
  | .lead _ => [replacement]
  | .escape => [replacement]
  | .escapeWith a =>
    let (cs, s) := plain { s with pending := .nothing, escaped := false } a
    replacement :: cs ++ (if s.pending = .nothing then [] else [replacement])

end JisState

/-- The automaton of ISO-2022-JP, where escapes change what bytes stand for. -/
def iso2022JpAutomaton : Automaton where
  State := JisState
  start := ⟨.ascii, .nothing, false⟩
  step := JisState.step
  finish := JisState.finish

/-! ## All of them -/

/-- The character sets of more than one byte. -/
inductive MultiByte where
  /-- GB 18030. -/
  | gb18030
  /-- Big5. -/
  | big5
  /-- EUC-JP. -/
  | eucJp
  /-- ISO-2022-JP. -/
  | iso2022Jp
  /-- Shift_JIS. -/
  | shiftJis
  /-- EUC-KR. -/
  | eucKr
deriving DecidableEq, Inhabited

namespace MultiByte

/-- The automaton of a set. -/
def automaton : MultiByte → Automaton
  | gb18030 => gb18030Automaton
  | big5 => big5Automaton
  | eucJp => eucJpAutomaton
  | iso2022Jp => iso2022JpAutomaton
  | shiftJis => shiftJisAutomaton
  | eucKr => eucKrAutomaton

/-- The labels of a set, in small letters. -/
def labels : MultiByte → List String
  | gb18030 => ["chinese", "csgb2312", "csiso58gb231280", "gb18030", "gb2312", "gb_2312",
      "gb_2312-80", "gbk", "iso-ir-58", "x-gbk"]
  | big5 => ["big5", "big5-hkscs", "cn-big5", "csbig5", "x-x-big5"]
  | eucJp => ["cseucpkdfmtjapanese", "euc-jp", "x-euc-jp"]
  | iso2022Jp => ["csiso2022jp", "iso-2022-jp"]
  | shiftJis => ["csshiftjis", "ms932", "ms_kanji", "shift-jis", "shift_jis", "sjis", "windows-31j",
      "x-sjis"]
  | eucKr => ["cseuckr", "csksc56011987", "euc-kr", "iso-ir-149", "korean", "ks_c_5601-1987",
      "ks_c_5601-1989", "ksc5601", "ksc_5601", "windows-949"]

/-- All of them. -/
def all : List MultiByte := [gb18030, big5, eucJp, iso2022Jp, shiftJis, eucKr]

end MultiByte

end Charset
end Mailshot
