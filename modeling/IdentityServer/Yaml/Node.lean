import IdentityServer.Decimal.Reading
import IdentityServer.Yaml.Reading

/-!
# Nodes of YAML documents

The tree that the tokens of a document stand for. A text without quotes may stand for another value, and a
tag says which one it does. An alias repeats the node of an anchor.
-/

namespace IdentityServer.Yaml

/-- A node. -/
inductive Node where
  | null
  /-- A text that is not what its tag says. -/
  | invalid
  | bool (value : Bool)
  | int (value : Int64)
  /-- A number as it is written. -/
  | real (written : String)
  | text (value : String)
  | seq (items : List Node)
  | map (entries : List (Node × Node))
  deriving BEq, Inhabited

/-! ### Values of texts -/

namespace Node

/-- The spellings of infinity and of the undefined value. -/
def namedReals : List String :=
  [".inf", ".Inf", ".INF", "+.inf", "+.Inf", "+.INF", "-.inf", "-.Inf", "-.INF", ".nan", ".NaN", ".NAN"]

/-- Whether a text is a double. Words are none, whatever they name. -/
def isReal (s : String) : Bool :=
  namedReals.contains s || (s.toList.any Char.isDigit && (Binary64.read s.toList).isSome)

/-- The integer of digits with an optional sign in a base. -/
def basedInt? (base : Nat) (s : List Char) : Option Int64 :=
  let read (digits : List Char) : Option Nat := if digits.isEmpty then none else Hex.number? base digits
  match s with
  | '-' :: digits => (read digits).bind fun n => Text.toInt64? (-(n : Int))
  | '+' :: digits => (read digits).bind fun n => Text.toInt64? n
  | digits => (read digits).bind fun n => Text.toInt64? n

/-- The integer that a text stands for. One with a sign may have a second one. -/
def int? (s : List Char) : Option Int64 :=
  let marked := match s with
    | '0' :: 'x' :: digits => basedInt? 16 digits
    | '0' :: 'o' :: digits => basedInt? 8 digits
    | '+' :: rest => Text.readInt64 rest
    | _ => none
  marked.or (Text.readInt64 s)

/-- The node that a text without quotes stands for. -/
def ofPlain (s : String) : Node :=
  match s with
  | "~" | "null" => .null
  | "true" => .bool true
  | "false" => .bool false
  | _ =>
    match int? s.toList with
    | some n => .int n
    | none => if isReal s then .real s else .text s

/-- The node that a text with a tag of the language stands for. -/
def ofTagged (suffix s : String) : Node :=
  match suffix with
  | "bool" => if s = "true" then .bool true else if s = "false" then .bool false else .invalid
  | "int" => ((Text.readInt64 s.toList).map Node.int).getD .invalid
  | "float" => if isReal s then .real s else .invalid
  | "null" => if s = "~" ∨ s = "null" then .null else .invalid
  | _ => .text s

/-- The start of the tags of the language. -/
def languageTag : String := "tag:yaml.org,2002:"

/-- The node of a text with or without a tag. -/
def ofScalar (isPlain : Bool) (tag : Option (String × String)) (s : String) : Node :=
  if !isPlain then .text s
  else
    match tag with
    | none => ofPlain s
    | some (handle, suffix) => if handle = languageTag then ofTagged suffix s else .text s

/-- The entries of a mapping, from its keys and values in turn, after those before; nothing if a key is
    there twice. An invalid node does not count where a key is expected. -/
def entries? : List (Node × Node) → List Node → Option (List (Node × Node))
  | before, .invalid :: rest => entries? before rest
  | before, key :: value :: rest =>
    if before.any fun entry => entry.1 == key then none else entries? (before ++ [(key, value)]) rest
  | before, _ => some before

/-- The mapping of keys and values in turn. -/
def ofEntries? (nodes : List Node) : Option Node :=
  (entries? [] nodes).map .map

end Node

/-! ### Anchors and tags -/

/-- What is known of the document before a node. -/
structure Context where
  /-- What handles of tags stand for. -/
  handles : List (String × String) := []
  /-- The numbers of anchors, the last one of a name first. -/
  anchors : List (String × Nat) := []
  /-- The nodes of anchors that are read. -/
  nodes : List (Nat × Node) := []

namespace Context

/-- The tag that a token stands for. A handle between two marks has to be known. -/
def tag? (x : Context) (handle suffix : String) : Option (String × String) :=
  match x.handles.lookup handle with
  | some start => some (start, suffix)
  | none =>
    if handle = "!!" then some (Node.languageTag, suffix)
    else if isFullHandle handle.toList then none
    else some (handle, suffix)

/-- The context with an anchor, and its number. -/
def withAnchor (x : Context) (name : String) : Nat × Context :=
  let n := x.anchors.length + 1
  (n, { x with anchors := (name, n) :: x.anchors })

/-- The context with the node of an anchor, if it has one. -/
def withNode (x : Context) (anchor : Option Nat) (node : Node) : Context :=
  match anchor with
  | some n => { x with nodes := (n, node) :: x.nodes }
  | none => x

/-- The node that an alias repeats. Within the node itself there is none yet. -/
def alias? (x : Context) (name : String) : Option Node :=
  (x.anchors.lookup name).map fun n => (x.nodes.lookup n).getD .invalid

end Context

/-! ### Nodes -/

/-- What stands before a node: an anchor and a tag. -/
structure Properties where
  anchor : Option Nat := none
  tag : Option (String × String) := none

/-- The properties at the start of tokens, what is known after them, and what follows them. Each stands there
    once, in either order. -/
def readProperties (x : Context) : List Token → Option (Properties × Context × List Token)
  | .anchor name :: .tag handle suffix :: rest => do
    let (n, x) := x.withAnchor name
    return (⟨some n, some (← x.tag? handle suffix)⟩, x, rest)
  | .tag handle suffix :: .anchor name :: rest => do
    let tag ← x.tag? handle suffix
    let (n, x) := x.withAnchor name
    return (⟨some n, some tag⟩, x, rest)
  | .anchor name :: rest =>
    let (n, x) := x.withAnchor name
    some (⟨some n, none⟩, x, rest)
  | .tag handle suffix :: rest => do
    return (⟨none, some (← x.tag? handle suffix)⟩, x, rest)
  | rest => some ({}, x, rest)

/-- What is read of nodes: their values, what is known after them, and what follows them. -/
abbrev Read (α : Type) := Option (α × Context × List Token)

/-- Whether tokens start with one of these, or with nothing. -/
def startsWith (tokens : List Token) (s : List Token) : Bool :=
  s.head?.all tokens.contains

mutual

/-- A node. Blocks and entries without an indentation of their own are not for every place. -/
def readNode : Nat → (isBlock mayHang : Bool) → Context → List Token → Read Node
  | 0, _, _, _, _ => none
  | _ + 1, _, _, x, .alias name :: rest => (x.alias? name).map fun node => (node, x, rest)
  | fuel + 1, isBlock, mayHang, x, s =>
    (readProperties x s).bind fun (p, x, s) =>
      (readContent fuel isBlock mayHang p x s).map fun (node, x, s) => (node, x.withNode p.anchor node, s)

/-- A node behind its properties. It may be empty if it has one. -/
def readContent : Nat → (isBlock mayHang : Bool) → Properties → Context → List Token → Read Node
  | 0, _, _, _, _, _ => none
  | fuel + 1, isBlock, mayHang, p, x, s =>
    match s, isBlock with
    | .scalar isPlain text :: rest, _ => some (Node.ofScalar isPlain p.tag text, x, rest)
    | .flowSequence :: rest, _ => (readFlowItems fuel true x rest).map fun q => (.seq q.1, q.2)
    | .flowMapping :: rest, _ =>
      (readFlowEntries fuel true x rest).bind fun q => (Node.ofEntries? q.1).map (·, q.2)
    | .blockSequence :: rest, true => (readBlockItems fuel x rest).map fun q => (.seq q.1, q.2)
    | .blockMapping :: rest, true =>
      (readBlockEntries fuel x rest).bind fun q => (Node.ofEntries? q.1).map (·, q.2)
    | s, _ =>
      if mayHang && s.head? = some .blockEntry then
        (readHangingItems fuel x s).map fun q => (.seq q.1, q.2)
      else if p.anchor.isSome || p.tag.isSome then some (Node.ofScalar true p.tag "", x, s)
      else none

/-- A node, or the null value if the tokens start with one of those behind an empty node. -/
def readNodeUnless : Nat → (ends : List Token) → (isBlock mayHang : Bool) → Context → List Token → Read Node
  | 0, _, _, _, _, _ => none
  | fuel + 1, ends, isBlock, mayHang, x, s =>
    if startsWith ends s then some (.null, x, s) else readNode fuel isBlock mayHang x s

/-- The items of a block up to its end. -/
def readBlockItems : Nat → Context → List Token → Read (List Node)
  | 0, _, _ => none
  | fuel + 1, x, s =>
    match s with
    | .blockEnd :: rest => some ([], x, rest)
    | .blockEntry :: rest =>
      (readNodeUnless fuel [.blockEntry, .blockEnd] true false x rest).bind fun (node, x, s) =>
        (readBlockItems fuel x s).map fun q => (node :: q.1, q.2)
    | _ => none

/-- Items without an indentation of their own, as many as there are. -/
def readHangingItems : Nat → Context → List Token → Read (List Node)
  | 0, _, _ => none
  | fuel + 1, x, s =>
    match s with
    | .blockEntry :: rest =>
      (readNodeUnless fuel [.blockEntry, .key, .value, .blockEnd] true false x rest).bind fun (node, x, s) =>
        (readHangingItems fuel x s).map fun q => (node :: q.1, q.2)
    | s => some ([], x, s)

/-- The keys and values of a block in turn, up to its end. -/
def readBlockEntries : Nat → Context → List Token → Read (List Node)
  | 0, _, _ => none
  | fuel + 1, x, s =>
    let ends := [.key, .value, .blockEnd]
    let keyed := match s with
      | .blockEnd :: _ => none
      | .key :: rest => readNodeUnless fuel ends true true x rest
      | .value :: _ => some (.null, x, s)
      | _ => none
    match s, keyed with
    | .blockEnd :: rest, _ => some ([], x, rest)
    | _, none => none
    | _, some (key, x, s) =>
      let valued := match s with
        | .value :: rest => readNodeUnless fuel ends true true x rest
        | s => some (.null, x, s)
      valued.bind fun (value, x, s) =>
        (readBlockEntries fuel x s).map fun q => (key :: value :: q.1, q.2)

/-- The value behind a key in brackets. -/
def readFlowValue : Nat → (ends : List Token) → Context → List Token → Read Node
  | 0, _, _, _ => none
  | fuel + 1, ends, x, s =>
    match s with
    | .value :: rest => readNodeUnless fuel ends false false x rest
    | s => some (.null, x, s)

/-- The items of a sequence in brackets up to its end; all but the first have a comma before them. A key in
    it makes a mapping of one entry. -/
def readFlowItems : Nat → (isFirst : Bool) → Context → List Token → Read (List Node)
  | 0, _, _, _ => none
  | fuel + 1, isFirst, x, s =>
    let ends := [.flowEntry, .flowSequenceEnd]
    match s, isFirst with
    | .flowSequenceEnd :: rest, _ => some ([], x, rest)
    | .flowEntry :: rest, false => readFlowItems fuel true x rest
    | _, false => none
    | .key :: rest, true =>
      (readNodeUnless fuel (.value :: ends) false false x rest).bind fun (key, x, s) =>
        (readFlowValue fuel ends x s).bind fun (value, x, s) =>
          (Node.ofEntries? [key, value]).bind fun pair =>
            (readFlowItems fuel false x s).map fun q => (pair :: q.1, q.2)
    | s, true =>
      (readNode fuel false false x s).bind fun (node, x, s) =>
        (readFlowItems fuel false x s).map fun q => (node :: q.1, q.2)

/-- The keys and values of a mapping in braces in turn, up to its end; all but the first have a comma before
    them. -/
def readFlowEntries : Nat → (isFirst : Bool) → Context → List Token → Read (List Node)
  | 0, _, _, _ => none
  | fuel + 1, isFirst, x, s =>
    let ends := [.flowEntry, .flowMappingEnd]
    let keyed := match s with
      | .key :: rest => readNodeUnless fuel (.value :: ends) false false x rest
      | .value :: _ => some (.null, x, s)
      | s => readNode fuel false false x s
    match s, isFirst with
    | .flowMappingEnd :: rest, _ => some ([], x, rest)
    | .flowEntry :: rest, false => readFlowEntries fuel true x rest
    | _, false => none
    | token :: _, true =>
      keyed.bind fun (key, x, s) =>
        let valued := if token = .key ∨ token = .value then readFlowValue fuel ends x s else some (.null, x, s)
        valued.bind fun (value, x, s) =>
          (readFlowEntries fuel false x s).map fun q => (key :: value :: q.1, q.2)
    | [], true => none

end

end IdentityServer.Yaml
