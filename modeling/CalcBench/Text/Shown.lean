import CalcBench.Text.Unprintable

/-!
# CalcBench.Text.Shown — texts in quotes, as JSON and on a terminal

In quotes every character is shown as itself if that can be read back.  JSON is compact.  Colours are
set by escape sequences; a text is made safe for a terminal by showing what could start such a sequence
in a visible form, or by taking the sequences out.
-/

namespace CalcBench.Text

/-! ### Quotes -/

def inRanges (ranges : List (Nat × Nat)) (n : Nat) : Bool :=
  ranges.any fun (low, high) => low ≤ n && n ≤ high

/-- Shown by its code point inside quotes. -/
def isHidden (c : Char) : Bool :=
  !(0x20 ≤ c.toNat && c.toNat < 0x7F)
    && (inRanges extenderRanges c.toNat || inRanges unprintableRanges c.toNat)

def hexadecimal (n : Nat) : String := String.ofList (Nat.toDigits 16 n)

/-- The form of `c` between two `quote` marks. -/
def escaped (quote : Char) (c : Char) : String :=
  if c = '\x00' then "\\0"
  else if c = '\t' then "\\t"
  else if c = '\n' then "\\n"
  else if c = '\r' then "\\r"
  else if c = '\\' then "\\\\"
  else if c = quote then String.ofList ['\\', c]
  else if isHidden c then "\\u\x7b" ++ hexadecimal c.toNat ++ "\x7d"
  else String.singleton c

def quotedChar (c : Char) : String := "'" ++ escaped '\'' c ++ "'"

def quoted (text : String) : String :=
  "\"" ++ String.join (text.toList.map (escaped '"')) ++ "\""

end CalcBench.Text

namespace CalcBench.Text.JsonText

/-! ### JSON -/

def hexDigit (n : Nat) : Char := n.digitChar

/-- The form of a character inside a string. -/
def escaped (c : Char) : String :=
  if c = '"' then "\\\""
  else if c = '\\' then "\\\\"
  else if c = '\x08' then "\\b"
  else if c = '\t' then "\\t"
  else if c = '\n' then "\\n"
  else if c = '\x0c' then "\\f"
  else if c = '\r' then "\\r"
  else if c.toNat < 0x20 then
    "\\u00" ++ String.ofList [hexDigit (c.toNat / 16), hexDigit (c.toNat % 16)]
  else String.singleton c

def string (text : String) : String := "\"" ++ String.join (text.toList.map escaped) ++ "\""

def bool (b : Bool) : String := if b then "true" else "false"

/-- An object with its members in the given order; the values are JSON already. -/
def object (members : List (String × String)) : String :=
  "\x7b" ++ String.intercalate "," (members.map fun (key, value) => string key ++ ":" ++ value)
    ++ "\x7d"

end CalcBench.Text.JsonText

namespace CalcBench.Text

/-! ### Terminals -/

/-- The sequence that switches the terminal to the rendition `code`. -/
def rendition (code : String) : String := "\x1b[" ++ code ++ "m"

/-- A text shown in the rendition `code`, with the default restored after it. -/
def painted (code text : String) : String := rendition code ++ text ++ rendition "0"

/-- Bell, backspace, form feed, escape, delete and the upper controls in visible form. -/
def harmless (c : Char) : String :=
  if c = '\x1b' then "\\x1b"
  else if c = '\x07' then "\\x07"
  else if c = '\x08' then "\\x08"
  else if c = '\x0c' then "\\x0c"
  else if c = '\x7f' then "\\x7f"
  else if 0x80 ≤ c.toNat ∧ c.toNat ≤ 0x9F then "\\u\x7b" ++ hexadecimal c.toNat ++ "\x7d"
  else String.singleton c

/-- A text whose control characters cannot drive the terminal. -/
def terminalSafe (text : String) : String := String.join (text.toList.map harmless)

/-! ### Texts without escape sequences -/

/-- Where in a sequence a terminal is. -/
inductive SequenceState where
  | outside
  | escape
  /-- After an escape character and others that only prepare for the last one. -/
  | prepared
  | control
  /-- At the head of a device control string. -/
  | head
  /-- In the parameters at the head of a device control string. -/
  | parameters
  /-- After the parameters, where the head of a device control string is about to end. -/
  | intermediates
  /-- In a string that only a string terminator ends. -/
  | string
  /-- In an operating system command. -/
  | command
  deriving DecidableEq

def isBetween (low high : Nat) (c : Char) : Bool := low ≤ c.toNat && c.toNat ≤ high

/-- The characters that are not control characters; those from U+0080 on count as such. -/
def isGraphic (c : Char) : Bool := 0x20 ≤ c.toNat && c.toNat != 0x7F

/-- The white space among the control characters. -/
def isLayout (c : Char) : Bool := c == '\t' || c == '\n' || c == '\x0c' || c == '\r'

/-- The UTF-8 form of a character has the byte 0x9C, which alone is a string terminator. -/
def holdsTerminator (c : Char) : Bool := (String.utf8EncodeChar c).contains 0x9C

namespace SequenceState

/-- The state after a character that is not shown. -/
def next (s : SequenceState) (c : Char) : SequenceState :=
  if c = '\x1b' then .escape
  else if c = '\x18' ∨ c = '\x1a' then .outside
  else
    match s with
    | .outside => .outside
    | .escape =>
      if c = '[' then .control
      else if c = ']' then .command
      else if c = 'P' then .head
      else if c = 'X' ∨ c = '^' ∨ c = '_' then .string
      else if isBetween 0x20 0x2F c then .prepared
      else if isBetween 0x30 0x7E c then .outside
      else .escape
    | .prepared => if isBetween 0x30 0x7E c then .outside else .prepared
    | .control => if isBetween 0x40 0x7E c then .outside else .control
    | .head =>
      if isBetween 0x20 0x2F c then .intermediates
      else if isBetween 0x30 0x3F c then .parameters
      else if isBetween 0x40 0x7E c then .string
      else .head
    | .parameters =>
      if isBetween 0x20 0x2F c then .intermediates
      else if isBetween 0x3C 0x7E c then .string
      else .parameters
    | .intermediates => if isBetween 0x30 0x7E c then .string else .intermediates
    | .string => if holdsTerminator c then .outside else .string
    | .command => if c = '\x07' then .outside else .command

/-- The state admits a character of the text: outside any sequence all that can be shown, and white
space also within a sequence that is no string. -/
def admits (s : SequenceState) (c : Char) : Bool :=
  match s with
  | .outside => isGraphic c || isLayout c
  | .escape | .prepared | .control => isLayout c
  | .head | .parameters | .intermediates | .string | .command => false

end SequenceState

/-- The characters shown from a state on.  White space within a sequence shows what follows it, up
to a control character; there the sequence goes on, unless a character beyond ASCII came between. -/
def strippedFrom (s : SequenceState) (showing : Bool) : List Char → List Char
  | [] => []
  | c :: rest =>
    if (if showing then SequenceState.outside else s).admits c then
      c :: strippedFrom (if c.toNat < 0x80 then s else .outside) true rest
    else strippedFrom (s.next c) false rest

def stripped (text : String) : String :=
  String.ofList (strippedFrom .outside false text.toList)

end CalcBench.Text
