import BlockLang.Number.Decimal
import BlockLang.Text.Quoted
import BlockLang.Tree.Basic

set_option relaxedAutoImplicit false
set_option autoImplicit false

/-!
# Outlines of trees

An outline names every node of a tree and every part of a node. It is laid out on one line, or with
one part a line and the parts of a part indented.

## Main definitions

* `BlockLang.Outline` — words, labelled parts and bracketed groups.
* `BlockLang.Outline.compact`, `BlockLang.Outline.lines` — the two layouts.
* `BlockLang.Tree.outline` — the outline of a tree.
-/

namespace BlockLang

/-- What a layout is made of. -/
inductive Outline where
  | word (text : String)
  /-- A part with its label. -/
  | labelled (label : String) (part : Outline)
  /-- Parts between brackets; `gap` goes inside the brackets where the group stands on one line. -/
  | group (opening gap closing : String) (parts : List Outline)
deriving Repr

namespace Outline

mutual

/-- An outline on one line. -/
def compact : Outline → String
  | word text => text
  | labelled label part => label ++ ": " ++ compact part
  | group opening gap closing parts =>
    opening ++ gap ++ String.intercalate ", " (compacts parts) ++ gap ++ closing

/-- The parts of a group, each on one line. -/
def compacts : List Outline → List String
  | [] => []
  | part :: parts => compact part :: compacts parts

end

/-- Puts a text before the first of some lines. -/
def leading (text : String) : List String → List String
  | [] => [text]
  | first :: rest => (text ++ first) :: rest

/-- Puts a text after the last of some lines. -/
def trailing (text : String) : List String → List String
  | [] => [text]
  | [last] => [last ++ text]
  | first :: rest => first :: trailing text rest

mutual

/-- An outline with the parts of every group on lines of their own, indented by four columns and
followed by commas. A group without parts takes one line. -/
def lines : Outline → List String
  | word text => [text]
  | labelled label part => leading (label ++ ": ") (lines part)
  | group opening _ closing [] => [opening ++ closing]
  | group opening _ closing (part :: parts) =>
    opening :: (indented (part :: parts) ++ [closing])

/-- The indented lines of the parts of a group. -/
def indented : List Outline → List String
  | [] => []
  | part :: parts => (trailing "," (lines part)).map ("    " ++ ·) ++ indented parts

end

/-- An outline with one part a line. -/
def pretty (o : Outline) : String :=
  String.intercalate "\n" (lines o)

/-- A node with one unnamed part. -/
def node (name : String) (part : Outline) : Outline :=
  group (name ++ "(") "" ")" [part]

/-- A node with named parts. -/
def record (name : String) (parts : List (String × Outline)) : Outline :=
  group (name ++ " \x7b") " " "\x7d" (parts.map fun part => labelled part.1 part.2)

/-- A list of nodes. -/
def list (parts : List Outline) : Outline :=
  group "[" "" "]" parts

end Outline

namespace Tree

mutual

/-- The outline of a tree. -/
def outline : Tree → Outline
  | num value => .node "Num" (.word (Decimal.ofInt64 value))
  | var name => .node "Var" (.word (Quoted.quote name))
  | unary op operand => .record "UnaryOp" [("op", .word op.name), ("expr", outline operand)]
  | binary left op right =>
    .record "BinOp" [("left", outline left), ("op", .word op.name), ("right", outline right)]
  | assign name value =>
    .record "Assign" [("var", .word (Quoted.quote name)), ("expr", outline value)]
  | compound children => .record "Compound" [("children", .list (outlines children))]
  | noop => .word "NoOp"

/-- The outlines of a list of trees. -/
def outlines : List Tree → List Outline
  | [] => []
  | child :: children => outline child :: outlines children

end

end Tree

end BlockLang
