/-
From the tokens of a YAML text to the events of its one document.

An agenda lists what is still to be read, the next first: a node, an entry of a sequence, a key or a value of a mapping.
Each step takes what is next from the agenda and looks at the next token; it gives an event, or puts more on the agenda,
or both. Where a key or a value is left out, an empty scalar stands for it. A token that stands for a fault is the last
event.
-/
import LinePrompt.Yaml.Tag
import LinePrompt.Yaml.Token

namespace LinePrompt.Yaml

/-- what stands in front of a node -/
structure Props where
  anchor : Option String
  /-- the tag in full; an exclamation mark alone names no type -/
  tag : Option String
deriving DecidableEq, Repr

def Props.none : Props := ⟨.none, .none⟩

inductive Event where
  | alias (name : String)
  | scalar (props : Props) (text : String) (style : Style)
  | sequenceStart (props : Props)
  | sequenceEnd
  | mappingStart (props : Props)
  | mappingEnd
  /-- no more was read, by a fault of a token -/
  | broken (fault : Fault)
deriving DecidableEq, Repr

/-- the scalar that stands for a node left out -/
def Event.empty : Event := .scalar .none "" .plain

/-- what is to be read -/
inductive Task where
  /-- a node inside a block; a sequence in it may be indented no deeper than its key -/
  | blockNode (indentless : Bool)
  | flowNode
  | blockEntry
  | indentlessEntry
  | blockKey
  | blockValue
  | flowEntry (first : Bool)
  /-- a mapping of one pair inside brackets -/
  | pairKey
  | pairValue
  | pairEnd
  | flowKey (first : Bool)
  | flowValue
  | flowEmptyValue
deriving DecidableEq, Repr

structure Reader where
  tokens : List Token
  agenda : List Task
  /-- newest first -/
  events : List Event
  /-- what tag handles stand for -/
  handles : List (String × String)

namespace Reader

def emit (r : Reader) (e : Event) : Reader := { r with events := e :: r.events }

def drop (r : Reader) : Reader := { r with tokens := r.tokens.tail }

/-- put tasks in front of what is still to be read -/
def plan (r : Reader) (tasks : List Task) : Reader := { r with agenda := tasks ++ r.agenda }

/-- a node unless one of the tokens comes next, which mean that it is left out; then what follows it -/
def nodeOrEmpty (r : Reader) (ends : List Token) (node next : Task) : Reader :=
  match r.tokens with
  | t :: _ => if ends.contains t then (r.emit .empty).plan [next] else r.plan [node, next]
  | [] => r.plan [node, next]

/-! ## Nodes -/

/-- a tag name in full -/
def fullTag (handles : List (String × String)) (name : TagName) : Except Fault String :=
  match name.handle with
  | none => .ok name.suffix
  | some h =>
    match handles.lookup h with
    | some start => .ok (start ++ name.suffix)
    | none => .error .unreadable

/-- anchor and tag in front of a node, in either order; a tag's handle is looked up once the token behind it is there -/
def readProps (handles : List (String × String)) : List Token → Except Fault (Props × List Token)
  | .anchor a :: .tag t :: rest => (fullTag handles t).map fun t => (⟨some a, some t⟩, rest)
  | .tag t :: .anchor a :: rest => (fullTag handles t).map fun t => (⟨some a, some t⟩, rest)
  | .tag _ :: .broken f :: rest => .ok (.none, .broken f :: rest)
  | .anchor a :: rest => .ok (⟨some a, none⟩, rest)
  | .tag t :: rest => (fullTag handles t).map fun t => (⟨none, some t⟩, rest)
  | tokens => .ok (.none, tokens)

/-- the content of a node, its anchor and tag already read -/
def content (r : Reader) (props : Props) (block indentless : Bool) : Except Fault Reader :=
  match r.tokens with
  | .broken _ :: _ => .ok r
  | .scalar text style :: _ => .ok (r.drop.emit (.scalar props text style))
  | .flowSequenceStart :: _ => .ok ((r.drop.emit (.sequenceStart props)).plan [.flowEntry true])
  | .flowMappingStart :: _ => .ok ((r.drop.emit (.mappingStart props)).plan [.flowKey true])
  | t :: _ =>
    if indentless && t = .blockEntry then .ok ((r.emit (.sequenceStart props)).plan [.indentlessEntry])
    else if block && t = .blockSequenceStart then .ok ((r.drop.emit (.sequenceStart props)).plan [.blockEntry])
    else if block && t = .blockMappingStart then .ok ((r.drop.emit (.mappingStart props)).plan [.blockKey])
    else if props.anchor.isSome || props.tag.isSome then .ok (r.emit (.scalar props "" .plain))
    else .error .unreadable
  | [] => if props.anchor.isSome || props.tag.isSome then .ok (r.emit (.scalar props "" .plain)) else .error .unreadable

def node (r : Reader) (block indentless : Bool) : Except Fault Reader :=
  match r.tokens with
  | .alias name :: _ => .ok (r.drop.emit (.alias name))
  | _ => do
    let (props, tokens) ← readProps r.handles r.tokens
    { r with tokens }.content props block indentless

/-! ## Entries, keys and values -/

/-- the entry after a comma, or the first one; none if the brackets close. The closing bracket is taken. -/
def flowItem (r : Reader) (closing : Token) (first : Bool) : Except Fault (Option Reader × Reader) :=
  if r.tokens.head? = some closing then .ok (none, r.drop)
  else if first then .ok (some r, r)
  else if r.tokens.head? = some .flowEntry then
    if r.drop.tokens.head? = some closing then .ok (none, r.drop.drop) else .ok (some r.drop, r)
  else .error .unreadable

/-- one task, already taken from the agenda -/
def perform (r : Reader) : Task → Except Fault Reader
  | .blockNode indentless => r.node true indentless
  | .flowNode => r.node false false
  | .blockEntry =>
    match r.tokens with
    | .blockEntry :: _ => .ok (r.drop.nodeOrEmpty [.blockEntry, .blockEnd] (.blockNode false) .blockEntry)
    | .blockEnd :: _ => .ok (r.drop.emit .sequenceEnd)
    | _ => .error .unreadable
  | .indentlessEntry =>
    match r.tokens with
    | .blockEntry :: _ =>
      .ok (r.drop.nodeOrEmpty [.blockEntry, .key, .value, .blockEnd] (.blockNode false) .indentlessEntry)
    | _ => .ok (r.emit .sequenceEnd)
  | .blockKey =>
    match r.tokens with
    | .key :: _ => .ok (r.drop.nodeOrEmpty [.key, .value, .blockEnd] (.blockNode true) .blockValue)
    | .blockEnd :: _ => .ok (r.drop.emit .mappingEnd)
    | _ => .error .unreadable
  | .blockValue =>
    match r.tokens with
    | .value :: _ => .ok (r.drop.nodeOrEmpty [.key, .value, .blockEnd] (.blockNode true) .blockKey)
    | _ => .ok ((r.emit .empty).plan [.blockKey])
  | .flowEntry first => do
    match ← r.flowItem .flowSequenceEnd first with
    | (none, r) => pure (r.emit .sequenceEnd)
    | (some r, _) =>
      match r.tokens with
      | .key :: _ => pure ((r.drop.emit (.mappingStart .none)).plan [.pairKey])
      | _ => pure (r.plan [.flowNode, .flowEntry false])
  | .pairKey => .ok (r.nodeOrEmpty [.value, .flowEntry, .flowSequenceEnd] .flowNode .pairValue)
  | .pairValue =>
    match r.tokens with
    | .value :: _ => .ok (r.drop.nodeOrEmpty [.flowEntry, .flowSequenceEnd] .flowNode .pairEnd)
    | _ => .ok ((r.emit .empty).plan [.pairEnd])
  | .pairEnd => .ok ((r.emit .mappingEnd).plan [.flowEntry false])
  | .flowKey first => do
    match ← r.flowItem .flowMappingEnd first with
    | (none, r) => pure (r.emit .mappingEnd)
    | (some r, _) =>
      match r.tokens with
      | .key :: _ => pure (r.drop.nodeOrEmpty [.value, .flowEntry, .flowMappingEnd] .flowNode .flowValue)
      | _ => pure (r.plan [.flowNode, .flowEmptyValue])
  | .flowValue =>
    match r.tokens with
    | .value :: _ => .ok (r.drop.nodeOrEmpty [.flowEntry, .flowMappingEnd] .flowNode (.flowKey false))
    | _ => .ok ((r.emit .empty).plan [.flowKey false])
  | .flowEmptyValue => .ok ((r.emit .empty).plan [.flowKey false])

/-- until nothing is left to read. Every token is taken by a task, and a few tasks take none. -/
def run : Nat → Reader → Except Fault Reader
  | 0, _ => .error .unreadable
  | bound + 1, r =>
    match r.tokens, r.agenda with
    | .broken f :: _, _ => .ok { r.emit (.broken f) with tokens := [], agenda := [] }
    | _, [] => .ok r
    | _, task :: agenda => ({ r with agenda }.perform task).bind (run bound)

end Reader

/-! ## Documents -/

/-- the handles that need no directive -/
def standardHandles : List (String × String) := [("!", "!"), ("!!", standardPart)]

/-- directives up to the start of their document -/
def readDirectives : Bool → List (String × String) → List Token → Except Fault (List (String × String) × List Token)
  | versioned, handles, .versionDirective major _ :: rest =>
    if versioned || major != 1 then .error .unreadable else readDirectives true handles rest
  | versioned, handles, .tagDirective handle start :: rest =>
    if (handles.lookup handle).isSome then .error .unreadable
    else readDirectives versioned ((handle, start) :: handles) rest
  | versioned, handles, .otherDirective :: rest => readDirectives versioned handles rest
  | _, handles, .documentStart :: rest => .ok (handles ++ standardHandles, rest)
  | _, _, .broken f :: _ => .error f
  | _, _, _ => .error .unreadable

def isDirective : Token → Bool
  | .versionDirective .. => true
  | .tagDirective .. => true
  | .otherDirective => true
  | _ => false

/-- does the document, its start mark read, have no content? -/
def isEmptyContent : List Token → Bool
  | [] => true
  | t :: _ => isDirective t || t = .documentStart || t = .documentEnd

/-- the events of a document, by the tokens behind it: another document may not follow -/
def closing (events : List Event) (tokens : List Token) : Except Fault (List Event) :=
  match tokens.dropWhile (· = .documentEnd) with
  | [] => .ok events
  | rest =>
    match readDirectives false [] rest with
    | .ok _ => .error .unreadable
    | .error .unreadable => .error .unreadable
    | .error fault => .ok (events ++ [.broken fault])

/-- the events of the one document of a token list; no events if there is no document -/
def Event.ofTokens (tokens : List Token) : Except Fault (List Event) :=
  match tokens with
  | [] => .ok []
  | t :: _ => do
    let explicit := isDirective t || t = .documentStart
    let (handles, tokens) ← if explicit then readDirectives false [] tokens else pure (standardHandles, tokens)
    let start : Reader := ⟨tokens, [.blockNode false], [], handles⟩
    let r ← if explicit && isEmptyContent tokens then pure { start.emit .empty with agenda := [] }
      else start.run (8 * tokens.length + 8)
    closing r.events.reverse r.tokens

end LinePrompt.Yaml
