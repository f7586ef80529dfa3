import RegisterFamilies.Text.Numeral

namespace RegisterFamilies.Text

/-- Closed ranges of code points. -/
def blankRanges : List (Nat × Nat) :=
  [(0x09, 0x0D), (0x20, 0x20), (0x85, 0x85), (0xA0, 0xA0), (0x1680, 0x1680), (0x2000, 0x200A),
    (0x2028, 0x2029), (0x202F, 0x202F), (0x205F, 0x205F), (0x3000, 0x3000)]

def isBlank (c : Char) : Bool :=
  blankRanges.any fun range => range.1 ≤ c.toNat && c.toNat ≤ range.2

def trimLeft (l : List Char) : List Char := l.dropWhile isBlank

def trimRight (l : List Char) : List Char := (trimLeft l.reverse).reverse

def trim (l : List Char) : List Char := trimRight (trimLeft l)

/-- The characters of the Unicode property White_Space. -/
def whiteSpace : List Char :=
  ['\t', '\n', '\x0b', '\x0c', '\r', ' ', '\u0085', '\u00a0', '\u1680',
    '\u2000', '\u2001', '\u2002', '\u2003', '\u2004', '\u2005', '\u2006', '\u2007', '\u2008',
    '\u2009', '\u200a', '\u2028', '\u2029', '\u202f', '\u205f', '\u3000']

def Blank (l : List Char) : Prop := ∀ c ∈ l, c ∈ whiteSpace

inductive Alignment where
  | left
  | centre
  | right
  deriving DecidableEq

namespace Alignment

def ofChar? : Char → Option Alignment
  | '<' => some left
  | '^' => some centre
  | '>' => some right
  | _ => none

/-- How much of the missing width is filled before the text; the rest is filled after it. -/
def before (missing : Nat) : Alignment → Nat
  | left => 0
  | centre => missing / 2
  | right => missing

end Alignment

structure Layout where
  fill : Char := ' '
  alignment : Option Alignment := none
  signed : Bool := false
  /-- Numbers announce their base, and compound values are spread over lines. -/
  alternate : Bool := false
  /-- Numbers are filled with zeros after the sign and the base. -/
  zeroFilled : Bool := false
  width : Nat := 0
  /-- The greatest number of characters taken from a text. -/
  precision : Option Nat := none
  deriving DecidableEq

namespace Layout

/-- Fills a text up to the width of the field; `default` is the alignment if none is given. -/
def pad (layout : Layout) (default : Alignment) (l : List Char) : List Char :=
  let missing := layout.width - l.length
  let before := (layout.alignment.getD default).before missing
  List.replicate before layout.fill ++ l ++ List.replicate (missing - before) layout.fill

def text (layout : Layout) (l : List Char) : List Char :=
  layout.pad .left <| match layout.precision with
    | some n => l.take n
    | none => l

theorem text_default (l : List Char) : ({} : Layout).text l = l := by
  simp only [text, pad, Nat.zero_sub, Nat.sub_self, Option.getD_none, Alignment.before,
    List.replicate_zero, List.nil_append, List.append_nil]

/-- A number in a field. Zero filling stands in the place of any other fill and alignment. -/
def number (layout : Layout) (base : Base) (digits : List Char) : List Char :=
  let lead := (if layout.signed then ['+'] else []) ++ if layout.alternate then base.mark else []
  if layout.zeroFilled then
    lead ++ List.replicate (layout.width - (lead.length + digits.length)) '0' ++ digits
  else
    layout.pad .right (lead ++ digits)

def readFlags? (layout : Layout) (l : List Char) : Option Layout :=
  let (signed, l) := if l.head? = some '+' then (true, l.tail) else (false, l)
  let (alternate, l) := if l.head? = some '#' then (true, l.tail) else (false, l)
  let (zeroFilled, l) := if l.head? = some '0' then (true, l.tail) else (false, l)
  if l.isEmpty then some { layout with signed, alternate, zeroFilled } else none

/-- Reads a written layout; its width and precision are given apart. -/
def read? (l : List Char) : Option Layout :=
  match l with
  | [] => some {}
  | [c] =>
    match Alignment.ofChar? c with
    | some a => some { alignment := some a }
    | none => readFlags? {} [c]
  | c :: d :: rest =>
    match Alignment.ofChar? d with
    | some a => readFlags? { fill := c, alignment := some a } rest
    | none =>
      match Alignment.ofChar? c with
      | some a => readFlags? { alignment := some a } (d :: rest)
      | none => readFlags? {} (c :: d :: rest)

end Layout

end RegisterFamilies.Text
