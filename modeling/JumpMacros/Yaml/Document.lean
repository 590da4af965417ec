import JumpMacros.Yaml.Scalar
import JumpMacros.Yaml.Token

/-!
# YAML documents

The tokens of a document make a tree of nodes, with an alias standing for the node that its
anchor names; the nodes make a value. `Yaml.read` goes from the text of a document to its value.
Reading a node takes tokens as it goes, so that the first problem in the order of the text is the
one that is reported. Values are made level by level: what is wrong with the entries of a
collection is reported before what is wrong inside one of them.
-/

namespace JumpMacros.Yaml

/-- A node of a document, with where it starts and its tag. An alias inside the node that it
stands for makes the node `recursive`. -/
inductive Node where
  | scalar (start : Mark) (tag : Tag) (text : String)
  | sequence (start : Mark) (tag : Tag) (items : List Node)
  | mapping (start : Mark) (tag : Tag) (entries : List (Node × Node))
  | recursive (start : Mark)

namespace Node

def start : Node → Mark
  | .scalar m _ _ | .sequence m _ _ | .mapping m _ _ | .recursive m => m

/-- A scalar that is not written. -/
def absent (m : Mark) : Node := .scalar m .null ""

/-- What a node is called in messages. -/
def kind : Node → String
  | .scalar _ _ _ => "scalar"
  | .sequence _ _ _ => "sequence"
  | .mapping _ _ _ | .recursive _ => "mapping"

/-- Whether a key asks for the entries of other mappings. -/
def isMerge : Node → Bool
  | .scalar _ t _ | .sequence _ t _ | .mapping _ t _ => t == .merge
  | .recursive _ => false

/-- Whether a key is tagged as a lone equals sign is, which makes it a text. -/
def isEquals : Node → Bool
  | .scalar _ t _ | .sequence _ t _ | .mapping _ t _ => t == .value
  | .recursive _ => false

/-- Whether a node is made into something that can be a key. -/
def isKey : Node → Bool
  | .scalar _ t _ => !([.sequence, .mapping, .set, .orderedMap, .pairs] : List Tag).contains t
  | .mapping _ t _ => t.isScalar || t == .value
  | _ => false

/-! ## Values -/

mutual

/-- The text of a node that is made into a scalar. A mapping stands for the value of its first key
that is a lone equals sign. Where there is no text, gives the node that has none. -/
def scalarText : Node → Except (String × Mark) String
  | .scalar _ _ s => .ok s
  | .sequence m _ _ => .error ("sequence", m)
  | .mapping m _ entries => equalsText m entries
  | .recursive m => .error ("mapping", m)

def equalsText (m : Mark) : List (Node × Node) → Except (String × Mark) String
  | [] => .error ("mapping", m)
  | (k, v) :: rest => if k.isEquals then v.scalarText else equalsText m rest

end

mutual

/-- The value of a node that has no troubles. Sets and lists of pairs are no settings, and all that
is kept of them is that they are collections. -/
def value : Node → Yaml
  | .scalar _ t s => (t.scalar s).toOption.getD .null
  | .sequence _ _ items => .list (values items)
  | .mapping _ .set _ | .recursive _ => .list []
  | .mapping m t entries =>
    if t.isScalar || t == .value then
      ((equalsText m entries).toOption.bind fun s => (t.scalar s).toOption).getD .null
    else .map (ofEntries (allEntries entries))

def values : List Node → List Yaml
  | [] => []
  | n :: rest => n.value :: values rest

/-- The entries of a mapping, those that it merges first. -/
def allEntries (entries : List (Node × Node)) : List (Yaml × Yaml) :=
  mergedEntries entries ++ ownEntries entries

def mergedEntries : List (Node × Node) → List (Yaml × Yaml)
  | [] => []
  | (k, v) :: rest =>
    (if k.isMerge then
      match v with
      | .mapping _ _ es => mergedEntries es ++ ownEntries es
      | .sequence _ _ items => eachMerged items
      | _ => []
    else []) ++ mergedEntries rest

/-- The entries of mappings that are merged; the earlier ones win. -/
def eachMerged : List Node → List (Yaml × Yaml)
  | [] => []
  | n :: rest =>
    eachMerged rest ++ match n with
      | .mapping _ _ es => mergedEntries es ++ ownEntries es
      | _ => []

def ownEntries : List (Node × Node) → List (Yaml × Yaml)
  | [] => []
  | (k, v) :: rest => if k.isMerge then ownEntries rest else (k.value, v.value) :: ownEntries rest

end

/-! ## Troubles -/

/-- A problem with the level at which it shows. -/
abbrev Trouble := Nat × Problem

def trouble (level : Nat) (kind : Fault) (start : Option Mark) (place : Mark) : List Trouble :=
  [(level, .fault kind start place)]

/-- What is wrong with a node that is made into a scalar. -/
def scalarTroubles (level : Nat) (n : Node) (t : Tag) : List Trouble :=
  match n.scalarText with
  | .error (kind, m) => trouble level (.wrongNode "scalar" kind) none m
  | .ok s =>
    match t, n with
    | .timestamp, .mapping _ _ _ => [(level, .unreadable .mappedTime)]
    | .binary, n =>
      match Text.Base64.decode s.toList with
      | .ok _ => []
      | .error f => trouble level (.notBinary f) none n.start
    | t, _ =>
      match t.scalar s with
      | .ok _ => []
      | .error u => [(level, .unreadable u)]

/-- What is wrong with a node because of its tag, if its tag is not one for what it holds. -/
def wrongKind (level : Nat) (n : Node) : Tag → List Trouble
  | .merge => trouble level (.unknownTag (Tag.name .merge)) none n.start
  | .value => trouble level (.unknownTag (Tag.name .value)) none n.start
  | .other name => trouble level (.unknownTag name) none n.start
  | .sequence => trouble (level + 1) (.wrongNode "sequence" n.kind) none n.start
  | .mapping | .set => trouble (level + 1) (.wrongNode "mapping" n.kind) none n.start
  | .orderedMap => trouble (level + 1) (.wrongPairs "an ordered map" n.kind) (some n.start) n.start
  | .pairs => trouble (level + 1) (.wrongPairs "pairs" n.kind) (some n.start) n.start
  | t => scalarTroubles level n t

mutual

/-- What is wrong with the mappings that a mapping merges. -/
def mergeTroubles (level : Nat) (m : Mark) : List (Node × Node) → List Trouble
  | [] => []
  | (k, v) :: rest =>
    (if k.isMerge then
      match v with
      | .mapping m' _ es => mergeTroubles level m' es
      | .sequence _ _ items => mergedTroubles level m items
      | .recursive _ => []
      | .scalar m' _ _ => trouble level (.merged "scalar") (some m) m'
    else []) ++ mergeTroubles level m rest

def mergedTroubles (level : Nat) (m : Mark) : List Node → List Trouble
  | [] => []
  | n :: rest =>
    (match n with
      | .mapping m' _ es => mergeTroubles level m' es
      | .recursive _ => []
      | .scalar m' _ _ => trouble level (.mergedItem "scalar") (some m) m'
      | .sequence m' _ _ => trouble level (.mergedItem "sequence") (some m) m') ++
      mergedTroubles level m rest

end

mutual

/-- What is wrong with a node at a level; what is in a collection is at the next one. -/
def troubles (level : Nat) : Node → List Trouble
  | .scalar m t s => wrongKind level (.scalar m t s) t
  | .recursive _ => []
  | .sequence m t items =>
    match t with
    | .sequence => listTroubles (level + 1) items
    | .orderedMap => pairTroubles (level + 1) m "an ordered map" items
    | .pairs => pairTroubles (level + 1) m "pairs" items
    | t => wrongKind level (.sequence m t []) t
  | .mapping m t es =>
    if t == .mapping || t == .set then
      mergeTroubles (level + 1) m es ++ inheritedTroubles (level + 1) m es ++
        ownTroubles (level + 1) m es
    else wrongKind level (.mapping m t es) t

def listTroubles (level : Nat) : List Node → List Trouble
  | [] => []
  | n :: rest => n.troubles level ++ listTroubles level rest

/-- What is wrong with the items of a list of pairs. -/
def pairTroubles (level : Nat) (m : Mark) (construct : String) : List Node → List Trouble
  | [] => []
  | n :: rest =>
    (match n with
      | .mapping _ _ [(k, v)] => k.troubles level ++ v.troubles level
      | .mapping m' _ es => trouble level (.wrongPairCount construct es.length) (some m) m'
      | .scalar m' _ _ => trouble level (.wrongPair construct "scalar") (some m) m'
      | .sequence m' _ _ => trouble level (.wrongPair construct "sequence") (some m) m'
      | .recursive m' => trouble level (.wrongPair construct "sequence") (some m) m') ++
      pairTroubles level m construct rest

/-- What is wrong with the entries that a mapping merges. -/
def inheritedTroubles (level : Nat) (m : Mark) : List (Node × Node) → List Trouble
  | [] => []
  | (k, v) :: rest =>
    (if k.isMerge then
      match v with
      | .mapping _ _ es => inheritedTroubles level m es ++ ownTroubles level m es
      | .sequence _ _ items => (eachInherited level m items).reverse.flatten
      | _ => []
    else []) ++ inheritedTroubles level m rest

def eachInherited (level : Nat) (m : Mark) : List Node → List (List Trouble)
  | [] => []
  | n :: rest =>
    (match n with
      | .mapping _ _ es => inheritedTroubles level m es ++ ownTroubles level m es
      | _ => []) :: eachInherited level m rest

/-- What is wrong with the entries of a mapping; a collection cannot be a key. -/
def ownTroubles (level : Nat) (m : Mark) : List (Node × Node) → List Trouble
  | [] => []
  | (k, v) :: rest =>
    (if k.isMerge then []
    else
      (if k.isEquals then scalarTroubles level k .text else k.troubles level) ++
        (if k.isKey then [] else trouble level .unhashableKey (some m) k.start) ++
        v.troubles level) ++ ownTroubles level m rest

end

/-- The value of a node, or the first problem of the first level that has one. -/
def construct (n : Node) : Except Problem Yaml :=
  let earlier (best : Option Trouble) (t : Trouble) : Option Trouble :=
    match best with
    | none => some t
    | some b => if t.1 < b.1 then some t else some b
  match (n.troubles 0).foldl earlier none with
  | some (_, p) => .error p
  | none => .ok n.value

end Node

/-! ## Reading nodes -/

/-- The tokens not yet read, the problem that ends them, the anchored nodes so far, and what the
handles of tags stand for. A node that is still being read has no value yet. -/
structure Reading where
  tokens : List Token
  problem : Option Problem
  anchors : List (String × Mark × Option Node)
  handles : List (String × String)

abbrev Composer := StateT Reading (Except Problem)

namespace Composer

/-- The next token. -/
def peek : Composer Token := fun r =>
  match r.tokens, r.problem with
  | t :: _, _ => .ok (t, r)
  | [], some p => .error p
  | [], none => .ok (⟨.streamEnd, ⟨0, 0, 0⟩, ⟨0, 0, 0⟩⟩, r)

/-- Takes the next token. -/
def advance : Composer Token := do
  let t ← peek
  modify fun r => { r with tokens := r.tokens.drop 1 }
  return t

/-- Whether the next token is one of some kinds. -/
def atAny (kinds : List TokenKind) : Composer Bool := do
  return kinds.contains (← peek).kind

/-- Takes the next token if it has a kind; gives the place behind it. -/
def taken? (kind : TokenKind) : Composer (Option Mark) := do
  if (← peek).kind == kind then return some (← advance).stop else return none

/-- Takes the next token if it has a kind. -/
def take? (kind : TokenKind) : Composer Bool := Option.isSome <$> taken? kind

def fail {α : Type} (kind : Fault) (start : Option Mark) (place : Mark) : Composer α :=
  throw (.fault kind start place)

/-- A node that is not written, at the next token. -/
def absentHere : Composer Node := return .absent (← peek).start

/-- Names a node; a name can be given once. -/
def beginAnchor (name : Option String) (place : Mark) : Composer Unit := do
  match name with
  | none => return
  | some n =>
    match (← get).anchors.lookup n with
    | some (first, _) => fail (.repeatedAnchor n) (some first) place
    | none => modify fun r => { r with anchors := (n, place, none) :: r.anchors }

def endAnchor (name : Option String) (node : Node) : Composer Unit :=
  match name with
  | none => return
  | some n => modify fun r => { r with
      anchors := r.anchors.map fun e => if e.1 == n then (n, e.2.1, some node) else e }

/-- The node an alias stands for. -/
def aliased (name : String) (place : Mark) : Composer Node := do
  match (← get).anchors.lookup name with
  | some (_, some node) => return node
  | some (start, none) => return .recursive start
  | none => fail (.undefinedAlias name) none place

/-- What stands before the content of a node: where it starts, its anchor and its tag. -/
structure Properties where
  start : Mark
  name : Option String
  tag : Option String

/-- The full name of a tag. -/
def tagName (start place : Mark) : Option String → String → Composer String
  | none, suffix => return suffix
  | some handle, suffix => do
    match (← get).handles.lookup handle with
    | some lead => return lead ++ suffix
    | none => fail (.undefinedHandle handle) (some start) place

/-- Reads an anchor and a tag, in either order; neither has to be there. -/
def properties : Composer Properties := do
  let t ← peek
  match t.kind with
  | .anchor name =>
    let _ ← advance
    let u ← peek
    match u.kind with
    | .tag handle suffix =>
      let _ ← advance
      return ⟨t.start, some name, some (← tagName t.start u.start handle suffix)⟩
    | _ => return ⟨t.start, some name, none⟩
  | .tag handle suffix =>
    let _ ← advance
    let u ← peek
    match u.kind with
    | .anchor name =>
      let _ ← advance
      return ⟨t.start, some name, some (← tagName t.start t.start handle suffix)⟩
    | _ => return ⟨t.start, none, some (← tagName t.start t.start handle suffix)⟩
  | _ => return ⟨t.start, none, none⟩

namespace Properties

/-- The tag of a collection. -/
def collectionTag (p : Properties) (standard : Tag) : Tag :=
  match p.tag with
  | none => standard
  | some n => if n == "!" then standard else .ofName n

/-- The tag of a scalar. The tag `!` makes a scalar a plain one. -/
def scalarTag (p : Properties) (text : String) (plain : Bool) : Tag :=
  match p.tag with
  | none => if plain then .ofPlain text else .text
  | some n => if n == "!" then .ofPlain text else .ofName n

end Properties

mutual

/-- Reads a node. The first argument bounds the number of steps; `block` says whether block
collections may stand here, and `indentless` whether a sequence may stand at the column of its
key. -/
def node (fuel : Nat) (block indentless : Bool) : Composer Node := do
  let t ← peek
  match fuel, t.kind with
  | 0, _ => return .absent t.start
  | _ + 1, .reference name =>
    let _ ← advance
    aliased name t.start
  | fuel + 1, _ => content fuel block indentless (← properties)

/-- Reads the content of a node. -/
def content (fuel : Nat) (block indentless : Bool) (p : Properties) : Composer Node := do
  match fuel with
  | 0 => return .absent p.start
  | fuel + 1 =>
    let t ← peek
    match t.kind with
    | .scalar s plain =>
      let _ ← advance
      finish (return .scalar p.start (p.scalarTag s plain) s)
    | .flowSequenceStart =>
      let _ ← advance
      finish (return .sequence p.start (p.collectionTag .sequence) (← flowItems fuel t.start true))
    | .flowMappingStart =>
      let _ ← advance
      finish (return .mapping p.start (p.collectionTag .mapping) (← flowEntries fuel t.start true))
    | .blockEntry =>
      if indentless then
        finish (return .sequence p.start (p.collectionTag .sequence) (← looseItems fuel))
      else missing t
    | .blockSequenceStart =>
      if !block then missing t
      else
        let _ ← advance
        finish (return .sequence p.start (p.collectionTag .sequence) (← blockItems fuel t.start))
    | .blockMappingStart =>
      if !block then missing t
      else
        let _ ← advance
        finish (return .mapping p.start (p.collectionTag .mapping) (← blockEntries fuel t.start))
    | _ => missing t
where
  finish (rest : Composer Node) : Composer Node := do
    beginAnchor p.name p.start
    let n ← rest
    endAnchor p.name n
    return n
  missing (t : Token) : Composer Node := do
    if p.name.isSome || p.tag.isSome then
      finish (return .scalar p.start (p.scalarTag "" true) "")
    else fail (.missingNode (if block then "block" else "flow") t.kind.name) (some p.start) t.start

/-- The items of a block sequence up to its end. -/
def blockItems (fuel : Nat) (start : Mark) : Composer (List Node) := do
  match fuel with
  | 0 => return []
  | fuel + 1 =>
    match ← taken? .blockEntry with
    | some m =>
      let n ← if ← atAny [.blockEntry, .blockEnd] then pure (.absent m) else node fuel true false
      return n :: (← blockItems fuel start)
    | none =>
      if ← take? .blockEnd then return []
      let t ← peek
      fail (.notClosed .blockSequence t.kind.name) (some start) t.start

/-- The items of a sequence that stands at the column of its key. -/
def looseItems (fuel : Nat) : Composer (List Node) := do
  match fuel with
  | 0 => return []
  | fuel + 1 =>
    match ← taken? .blockEntry with
    | some m =>
      let n ← if ← atAny [.blockEntry, .key, .value, .blockEnd] then pure (.absent m)
        else node fuel true false
      return n :: (← looseItems fuel)
    | none => return []

/-- The entries of a block mapping up to its end. -/
def blockEntries (fuel : Nat) (start : Mark) : Composer (List (Node × Node)) := do
  match fuel with
  | 0 => return []
  | fuel + 1 =>
    let ends : List TokenKind := [.key, .value, .blockEnd]
    match ← taken? .key with
    | some m =>
      let k ← if ← atAny ends then pure (.absent m) else node fuel true true
      let v ← match ← taken? .value with
        | some m => if ← atAny ends then pure (.absent m) else node fuel true true
        | none => absentHere
      return (k, v) :: (← blockEntries fuel start)
    | none =>
      if ← take? .blockEnd then return []
      let t ← peek
      fail (.notClosed .blockMapping t.kind.name) (some start) t.start

/-- The items of a flow sequence up to its bracket. A key makes an item a mapping of one entry. -/
def flowItems (fuel : Nat) (start : Mark) (first : Bool) : Composer (List Node) := do
  match fuel with
  | 0 => return []
  | fuel + 1 =>
    if ← take? .flowSequenceEnd then return []
    let separated ← if first then pure true else take? .flowEntry
    let t ← peek
    if !separated then fail (.notClosed .flowSequence t.kind.name) (some start) t.start
    match ← taken? .key with
    | some m =>
      let k ← if ← atAny [.value, .flowEntry, .flowSequenceEnd] then pure (.absent m)
        else node fuel false false
      let v ← match ← taken? .value with
        | some m =>
          if ← atAny [.flowEntry, .flowSequenceEnd] then pure (.absent m) else node fuel false false
        | none => absentHere
      return .mapping t.start .mapping [(k, v)] :: (← flowItems fuel start false)
    | none =>
      if ← take? .flowSequenceEnd then return []
      let n ← node fuel false false
      return n :: (← flowItems fuel start false)

/-- The entries of a flow mapping up to its brace. -/
def flowEntries (fuel : Nat) (start : Mark) (first : Bool) : Composer (List (Node × Node)) := do
  match fuel with
  | 0 => return []
  | fuel + 1 =>
    if ← take? .flowMappingEnd then return []
    let separated ← if first then pure true else take? .flowEntry
    let t ← peek
    if !separated then fail (.notClosed .flowMapping t.kind.name) (some start) t.start
    match ← taken? .key with
    | some m =>
      let k ← if ← atAny [.value, .flowEntry, .flowMappingEnd] then pure (.absent m)
        else node fuel false false
      let v ← match ← taken? .value with
        | some m =>
          if ← atAny [.flowEntry, .flowMappingEnd] then pure (.absent m) else node fuel false false
        | none => absentHere
      return (k, v) :: (← flowEntries fuel start false)
    | none =>
      if ← take? .flowMappingEnd then return []
      let k ← node fuel false false
      let v ← absentHere
      return (k, v) :: (← flowEntries fuel start false)

end

/-- The handles that stand for something in every document. -/
def standardHandles : List (String × String) := [("!", "!"), ("!!", Tag.standardLead)]

/-- Reads the directives of a document; the format's version can be given once, and so can each
handle. -/
def directives (fuel : Nat) (versioned : Bool) (handles : List (String × String)) :
    Composer (List (String × String)) := do
  let t ← peek
  match fuel, t.kind with
  | fuel + 1, .directive d =>
    let _ ← advance
    match d with
    | .version major =>
      if versioned then fail .repeatedVersion none t.start
      if major ≠ 1 then fail .wrongVersion none t.start
      directives fuel true handles
    | .handle name lead =>
      if (handles.lookup name).isSome then fail (.repeatedHandle name) none t.start
      directives fuel versioned (handles ++ [(name, lead)])
    | .other => directives fuel versioned handles
  | _, _ => return handles ++ standardHandles

/-- Passes over the marks that end documents. -/
def documentEnds : Nat → Composer Unit
  | 0 => return
  | fuel + 1 => do if ← take? .documentEnd then documentEnds fuel

/-- Where a further document starts that is marked as one, if there is one. -/
def explicitStart (fuel : Nat) : Composer (Option Mark) := do
  documentEnds fuel
  let t ← peek
  if t.kind == .streamEnd then return none
  let handles ← directives fuel false []
  modify fun r => { r with handles := handles }
  if ← take? .documentStart then return some t.start
  let t ← peek
  fail (.documentStart t.kind.name) none t.start

/-- Whether the next token is a directive. -/
def atDirective : Composer Bool := do
  match (← peek).kind with
  | .directive _ => return true
  | _ => return false

/-- The only document of a stream, if it has one. -/
def stream (fuel : Nat) : Composer (Option Node) := do
  let isMarked := (← atDirective) || (← atAny [.documentStart, .streamEnd])
  let isThere ← if isMarked then Option.isSome <$> explicitStart fuel else pure true
  if !isThere then return none
  let isEmpty := (← atDirective) || (← atAny [.documentStart, .documentEnd, .streamEnd])
  let n ← if isMarked && isEmpty then absentHere else node fuel true false
  match ← explicitStart fuel with
  | some m => fail .secondDocument (some n.start) m
  | none => return some n

end Composer

/-- Reads the value of a document; an empty stream has none. -/
def document (doc : List Char) : Except Problem Yaml := do
  match doc.findIdx? fun c => !isAllowed c with
  | some i => throw (.forbidden (doc.getD i ' ') i)
  | none => pure ()
  let (tokens, problem) := scan doc
  let (n, _) ← (Composer.stream (4 * tokens.length + 4)).run
    ⟨tokens, problem, [], Composer.standardHandles⟩
  match n with
  | some n => n.construct
  | none => return .null

/-- Why a text could not be read: it is no document, in words, or a scalar has no value. -/
inductive ReadError where
  | malformed (message : String)
  | unreadable (u : Unreadable)

/-- Reads a text as a document. -/
def read (text : String) : Except ReadError Yaml :=
  match document text.toList with
  | .ok v => .ok v
  | .error (.unreadable u) => .error (.unreadable u)
  | .error p => .error (.malformed (p.message text.toList))

end JumpMacros.Yaml
