import Folio.Text.Printable
import Folio.Token.Basic

/-!
# Labels of token kinds

How a kind of token is named in a message.

## Main definitions

* `Text.quoted` — a string in quotes, in which what does not show is escaped.
* `Kind.label` — the name of a kind.
-/

namespace Folio

namespace Text

/-- The digits of a number to base 16, in lower case. -/
def hexDigits (n : Nat) : List Char := Nat.toDigits 16 n

/-- One character between quotes.  The quote, the backslash and what does not show are
escaped. -/
def quotedChar (c : Char) : List Char :=
  if c == '\x00' then ['\\', '0']
  else if c == '\t' then ['\\', 't']
  else if c == '\r' then ['\\', 'r']
  else if c == '\n' then ['\\', 'n']
  else if c == '\\' then ['\\', '\\']
  else if c == '\x22' then ['\\', '\x22']
  else if Ranges.graphemeExtend.contains c.toNat || Ranges.unprintable.contains c.toNat then
    ['\\', 'u', '\x7b'] ++ hexDigits c.toNat ++ ['\x7d']
  else [c]

/-- A string in quotes. -/
def quoted (s : String) : String :=
  "\"" ++ String.ofList (s.toList.flatMap quotedChar) ++ "\""

end Text

/-- The name of a kind in a message. -/
def Kind.label : Kind → String
  | .heading n => "Heading(" ++ toString n ++ ")"
  | .paragraph => "Paragraph"
  | .blockquote => "Blockquote"
  | .bulletList => "BulletList"
  | .orderedList => "OrderedList"
  | .listItem => "ListItem"
  | .table => "Table"
  | .tableHead => "TableHead"
  | .tableBody => "TableBody"
  | .tableRow => "TableRow"
  | .tableHeaderCell => "TableHeaderCell"
  | .tableDataCell => "TableDataCell"
  | .definitionList => "DefinitionList"
  | .definitionTerm => "DefinitionTerm"
  | .definitionDetails => "DefinitionDetails"
  | .fence => "Fence"
  | .htmlBlock => "HtmlBlock"
  | .rule => "Rule"
  | .inline => "Inline"
  | .text => "Text"
  | .codeInline => "CodeInline"
  | .htmlInline => "HtmlInline"
  | .softBreak => "SoftBreak"
  | .hardBreak => "HardBreak"
  | .emphasis => "Emphasis"
  | .strong => "Strong"
  | .strikethrough => "Strikethrough"
  | .superscript => "Superscript"
  | .subscript => "Subscript"
  | .link => "Link"
  | .image => "Image"
  | .taskMarker checked => "TaskMarker(" ++ (if checked then "true" else "false") ++ ")"
  | .custom name => "Custom(" ++ Text.quoted name ++ ")"

end Folio
