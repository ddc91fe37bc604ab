import FunctionAtlas.Yaml.Lexer

/-!
Contract: streams as events.

Events announce documents, sequences and mappings with their ends, scalars, and references to
anchored nodes. They come one by one: an event is given as soon as the tokens before it allow, so a
fault further on does not take it back.

Owns: the states of reading, and the event that follows in each.

Does not own: what references refer to.
-/

namespace FunctionAtlas.Yaml

/-- A scalar, with the anchor and the tag before it. -/
structure Scalar where
  anchor : Option String := none
  tag : Option String := none
  text : String := ""
  style : ScalarStyle := .plain
deriving DecidableEq, Repr

/-- A part of a stream. -/
inductive Event where
  | streamStart
  | streamEnd
  | documentStart
  | documentEnd
  | reference (name : String)
  | scalar (scalar : Scalar)
  | sequenceStart (anchor : Option String)
  | sequenceEnd
  | mappingStart (anchor : Option String)
  | mappingEnd
deriving DecidableEq, Repr

/-- What is expected next. -/
inductive Expecting where
  | streamStart
  | implicitDocument
  | document
  | documentContent
  | documentEnd
  | blockNode
  | blockEntry (isFirst : Bool)
  | indentlessEntry
  | blockKey (isFirst : Bool)
  | blockValue
  | flowEntry (isFirst : Bool)
  | flowPairKey
  | flowPairValue
  | flowPairEnd
  | flowKey (isFirst : Bool)
  | flowValue
  | flowEmptyValue
  | nothing
deriving DecidableEq, Repr

/-- The state of reading events. -/
structure EventReader where
  scanner : Scanner
  expecting : Expecting := .streamStart
  /-- What is expected after the current node, and after those around it. -/
  pending : List Expecting := []
  /-- Where the open sequences and mappings begin. -/
  starts : List Mark := []
  /-- Abbreviations for tags. -/
  tagDirectives : List (String × String) := []

/-- Reading events, or finding a fault. -/
abbrev Read := StateT EventReader (Except Fault)

namespace Read

/-- The next token, without using it. -/
def peek : Read Token := fun reader => do
  let (token, scanner) ← nextToken reader.scanner
  return (token, { reader with scanner })

/-- Uses a token, and looks at the one after it. -/
def useAndPeek : Read Token := fun reader => do
  let (_, scanner) ← useToken reader.scanner
  let (token, scanner) ← nextToken scanner
  return (token, { reader with scanner })

def use : Read Unit := fun reader => do
  let (_, scanner) ← useToken reader.scanner
  return ((), { reader with scanner })

def expect (expecting : Expecting) : Read Unit := modify fun reader => { reader with expecting }

def push (expecting : Expecting) : Read Unit :=
  modify fun reader => { reader with pending := expecting :: reader.pending }

/-- Goes on with what is expected after the current node. -/
def pop : Read Unit := modify fun reader =>
  { reader with expecting := reader.pending.headD .nothing, pending := reader.pending.drop 1 }

def pushStart (mark : Mark) : Read Unit :=
  modify fun reader => { reader with starts := mark :: reader.starts }

/-- Leaves the innermost sequence or mapping. -/
def popStart : Read Mark := do
  let reader ← get
  set { reader with starts := reader.starts.drop 1 }
  return reader.starts.headD {}

/-- The token at the beginning of a collection is left behind when its first entry is read. -/
def enterIf (isFirst : Bool) : Read Unit := do
  if isFirst then
    pushStart (← peek).start
    use

def fail {α : Type} (problem : Problem) (place : Mark) (context : Option (Context × Mark)) :
    Read α :=
  throw (.syntaxError problem place context)

end Read

/-- An event and where it begins. -/
abbrev Placed := Event × Mark

/-- A value that is left out. -/
def emptyScalar (mark : Mark) : Placed := (.scalar {}, mark)

/-! ## Directives -/

/-- Reads directives, and fills up the abbreviations with the common ones. -/
def readDirectives : Nat → Bool → Read Unit
  | 0, _ => return ()
  | fuel + 1, hasVersion => do
      let token ← Read.peek
      match token.kind with
      | .versionDirective major minor =>
          if hasVersion then Read.fail .repeatedVersion token.start none
          if major ≠ 1 || (minor ≠ 1 && minor ≠ 2) then
            Read.fail .incompatibleVersion token.start none
          Read.use
          readDirectives fuel true
      | .tagDirective handle tagPrefix =>
          let reader ← get
          if (reader.tagDirectives.lookup handle).isSome then
            Read.fail .repeatedTagDirective token.start none
          set { reader with tagDirectives := reader.tagDirectives ++ [(handle, tagPrefix)] }
          Read.use
          readDirectives fuel hasVersion
      | _ =>
          modify fun reader =>
            { reader with tagDirectives :=
                reader.tagDirectives ++ [("!", "!"), ("!!", "tag:yaml.org,2002:")] }

/-! ## Nodes -/

/-- The anchor and the tag before a node. -/
structure Properties where
  anchor : Option String := none
  tag : Option (String × String × Mark) := none

/-- Reads anchor and tag, in any order; the token after them is given. -/
def readProperties (token : Token) : Read (Properties × Token) := do
  match token.kind with
  | .anchor name =>
      let next ← Read.useAndPeek
      match next.kind with
      | .tag handle suffix =>
          return ({ anchor := some name, tag := some (handle, suffix, next.start) },
            ← Read.useAndPeek)
      | _ => return ({ anchor := some name }, next)
  | .tag handle suffix =>
      let tag := some (handle, suffix, token.start)
      let next ← Read.useAndPeek
      match next.kind with
      | .anchor name => return ({ anchor := some name, tag }, ← Read.useAndPeek)
      | _ => return ({ tag }, next)
  | _ => return ({}, token)

/-- The tag with its abbreviation written out. -/
def resolveTag (start : Mark) : Option (String × String × Mark) → Read (Option String)
  | none => return none
  | some (handle, suffix, mark) => do
      if handle = "" then return some suffix
      match (← get).tagDirectives.lookup handle with
      | some tagPrefix => return some (tagPrefix ++ suffix)
      | none => Read.fail .undefinedTagHandle mark (some (.node, start))

/-- Reads a node. In a block, it may be a block; after a key, a sequence without indentation. -/
def readNode (isBlock isAfterKey : Bool) : Read Placed := do
  let first ← Read.peek
  match first.kind with
  | .reference name =>
      Read.pop
      Read.use
      return (.reference name, first.start)
  | _ =>
      let start := first.start
      let (properties, token) ← readProperties first
      let tag ← resolveTag start properties.tag
      let anchor := properties.anchor
      match token.kind, isBlock, isAfterKey with
      | .blockEntry, _, true =>
          Read.expect .indentlessEntry
          return (.sequenceStart anchor, start)
      | .scalar text style, _, _ =>
          Read.pop
          Read.use
          return (.scalar { anchor, tag := tag.filter (· ≠ "!"), text, style }, start)
      | .flowSequenceStart, _, _ =>
          Read.expect (.flowEntry true)
          return (.sequenceStart anchor, start)
      | .flowMappingStart, _, _ =>
          Read.expect (.flowKey true)
          return (.mappingStart anchor, start)
      | .blockSequenceStart, true, _ =>
          Read.expect (.blockEntry true)
          return (.sequenceStart anchor, start)
      | .blockMappingStart, true, _ =>
          Read.expect (.blockKey true)
          return (.mappingStart anchor, start)
      | _, _, _ =>
          if anchor.isSome || tag.isSome then
            Read.pop
            return (.scalar { anchor, tag }, start)
          Read.fail .expectedNodeContent token.start
            (some (if isBlock then .blockNode else .flowNode, start))

/-- Reads a node, or leaves it out before some tokens. -/
def readNodeUnless (isLeftOut : TokenKind → Bool) (after : Expecting) (isBlock isAfterKey : Bool)
    (token : Token) (emptyMark : Mark) : Read Placed := do
  if isLeftOut token.kind then
    Read.expect after
    return emptyScalar emptyMark
  Read.push after
  readNode isBlock isAfterKey

/-! ## Documents -/

def beginsDocument : TokenKind → Bool
  | .versionDirective _ _ | .tagDirective _ _ | .documentStart | .streamEnd => true
  | _ => false

/-- Moves over marks of document ends. -/
def skipDocumentEnds : Nat → Read Unit
  | 0 => return ()
  | fuel + 1 => do
      if (← Read.peek).kind = .documentEnd then
        Read.use
        skipDocumentEnds fuel

/-- The beginning of a document, or the end of the stream. -/
def readDocumentStart (isImplicit : Bool) : Read Placed := do
  let fuel := (← get).scanner.fuel
  if !isImplicit then skipDocumentEnds fuel
  let token ← Read.peek
  if isImplicit && !beginsDocument token.kind then
    readDirectives fuel false
    Read.push .documentEnd
    Read.expect .blockNode
    return (.documentStart, token.start)
  if token.kind = .streamEnd then
    Read.expect .nothing
    Read.use
    return (.streamEnd, token.start)
  readDirectives fuel false
  let next ← Read.peek
  if next.kind ≠ .documentStart then Read.fail .expectedDocumentStart next.start none
  Read.push .documentEnd
  Read.expect .documentContent
  Read.use
  return (.documentStart, token.start)

def readDocumentContent : Read Placed := do
  let token ← Read.peek
  if beginsDocument token.kind || token.kind = .documentEnd then
    Read.pop
    return emptyScalar token.start
  readNode true false

def readDocumentEnd : Read Placed := do
  let token ← Read.peek
  if token.kind = .documentEnd then Read.use
  modify fun reader => { reader with tagDirectives := [], expecting := .document }
  return (.documentEnd, token.start)

/-! ## Collections in blocks -/

/-- The end of a collection. -/
def readEnd (event : Event) (mark : Mark) : Read Placed := do
  Read.pop
  let _ ← Read.popStart
  Read.use
  return (event, mark)

def readBlockItem (isFirst : Bool) : Read Placed := do
  Read.enterIf isFirst
  let token ← Read.peek
  match token.kind with
  | .blockEntry =>
      let next ← Read.useAndPeek
      readNodeUnless (fun kind => kind = .blockEntry || kind = .blockEnd)
        (.blockEntry false) true false next token.stop
  | .blockEnd => readEnd .sequenceEnd token.start
  | _ => Read.fail .expectedDash token.start (some (.blockCollection, ← Read.popStart))

def readIndentlessItem : Read Placed := do
  let token ← Read.peek
  match token.kind with
  | .blockEntry =>
      let next ← Read.useAndPeek
      readNodeUnless
        (fun kind => kind = .blockEntry || kind = .key || kind = .value || kind = .blockEnd)
        .indentlessEntry true false next token.stop
  | _ =>
      Read.pop
      return (.sequenceEnd, token.start)

def endsBlockItem (kind : TokenKind) : Bool :=
  kind = .key || kind = .value || kind = .blockEnd

def readBlockMappingKey (isFirst : Bool) : Read Placed := do
  Read.enterIf isFirst
  let token ← Read.peek
  match token.kind with
  | .key =>
      let next ← Read.useAndPeek
      readNodeUnless endsBlockItem .blockValue true true next token.stop
  | .blockEnd => readEnd .mappingEnd token.start
  | _ => Read.fail .expectedKey token.start (some (.blockMapping, ← Read.popStart))

def readBlockMappingValue : Read Placed := do
  let token ← Read.peek
  match token.kind with
  | .value =>
      let next ← Read.useAndPeek
      readNodeUnless endsBlockItem (.blockKey false) true true next token.stop
  | _ =>
      Read.expect (.blockKey false)
      return emptyScalar token.start

/-! ## Collections in brackets -/

/-- Moves over the comma before an entry that is not the first. -/
def readComma (isFirst : Bool) (problem : Problem) (context : Context) (token : Token) :
    Read Token := do
  if isFirst then return token
  if token.kind = .flowEntry then Read.useAndPeek
  else Read.fail problem token.start (some (context, ← Read.popStart))

def readFlowItem (isFirst : Bool) : Read Placed := do
  Read.enterIf isFirst
  let token ← Read.peek
  if token.kind = .flowSequenceEnd then readEnd .sequenceEnd token.start
  else
    let token ← readComma isFirst .expectedSequenceEnd .flowSequence token
    match token.kind with
    | .key =>
        Read.expect .flowPairKey
        Read.use
        return (.mappingStart none, token.start)
    | .flowSequenceEnd => readEnd .sequenceEnd token.start
    | _ =>
        Read.push (.flowEntry false)
        readNode false false

/-- The key of a pair that stands by itself in a sequence. -/
def readPairKey : Read Placed := do
  let token ← Read.peek
  if token.kind = .value || token.kind = .flowEntry || token.kind = .flowSequenceEnd then
    Read.use
    Read.expect .flowPairValue
    return emptyScalar token.stop
  Read.push .flowPairValue
  readNode false false

def readPairValue : Read Placed := do
  let token ← Read.peek
  let next ← if token.kind = .value then Read.useAndPeek else pure token
  readNodeUnless
    (fun kind => token.kind ≠ .value || kind = .flowEntry || kind = .flowSequenceEnd)
    .flowPairEnd false false next next.start

def readPairEnd : Read Placed := do
  let token ← Read.peek
  Read.expect (.flowEntry false)
  return (.mappingEnd, token.start)

def readFlowMappingKey (isFirst : Bool) : Read Placed := do
  Read.enterIf isFirst
  let token ← Read.peek
  if token.kind = .flowMappingEnd then readEnd .mappingEnd token.start
  else
    let token ← readComma isFirst .expectedMappingEnd .flowMapping token
    match token.kind with
    | .key =>
        let next ← Read.useAndPeek
        readNodeUnless
          (fun kind => kind = .value || kind = .flowEntry || kind = .flowMappingEnd)
          .flowValue false false next next.start
    | .flowMappingEnd => readEnd .mappingEnd token.start
    | _ =>
        Read.push .flowEmptyValue
        readNode false false

def readFlowMappingValue (isEmpty : Bool) : Read Placed := do
  let token ← Read.peek
  let hasValue := !isEmpty && token.kind = .value
  let next ← if hasValue then Read.useAndPeek else pure token
  readNodeUnless (fun kind => !hasValue || kind = .flowEntry || kind = .flowMappingEnd)
    (.flowKey false) false false next next.start

/-! ## Events -/

/-- The next event. -/
def readEvent : Read Placed := do
  match (← get).expecting with
  | .streamStart =>
      let token ← Read.peek
      Read.expect .implicitDocument
      Read.use
      return (.streamStart, token.start)
  | .implicitDocument => readDocumentStart true
  | .document => readDocumentStart false
  | .documentContent => readDocumentContent
  | .documentEnd => readDocumentEnd
  | .blockNode => readNode true false
  | .blockEntry isFirst => readBlockItem isFirst
  | .indentlessEntry => readIndentlessItem
  | .blockKey isFirst => readBlockMappingKey isFirst
  | .blockValue => readBlockMappingValue
  | .flowEntry isFirst => readFlowItem isFirst
  | .flowPairKey => readPairKey
  | .flowPairValue => readPairValue
  | .flowPairEnd => readPairEnd
  | .flowKey isFirst => readFlowMappingKey isFirst
  | .flowValue => readFlowMappingValue false
  | .flowEmptyValue => readFlowMappingValue true
  | .nothing => return (.streamEnd, {})

end FunctionAtlas.Yaml
