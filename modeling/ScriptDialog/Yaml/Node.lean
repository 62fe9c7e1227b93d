import ScriptDialog.Yaml.Token

/-! The tree of a configuration text. A text holds one document at most. -/
namespace ScriptDialog.Yaml

inductive Node where
  | scalar (text : List Char) (plain : Bool)
  | list (items : List Node)
  | map (entries : List (Node × Node))

instance : Inhabited Node := ⟨.scalar [] true⟩

/-- The node where nothing stands. -/
def Node.empty : Node := .scalar [] true

/-- A token that ends the place of a node in a block. -/
def endsBlockItem : List Token → Bool
  | .key :: _ | .value :: _ | .endBlock :: _ => true
  | _ => false

/-- A token that ends the place of a node inside brackets. -/
def endsFlowItem (close : Token) : List Token → Bool
  | [] => false
  | t :: _ => t == .comma || t == close

mutual

/-- The node at the start of the tokens. Entries without a list around them count only where
`looseEntries` allows. -/
def node? (block looseEntries : Bool) : (fuel : Nat) → List Token → Option (Node × List Token)
  | 0, _ => none
  | fuel + 1, tokens =>
    match tokens with
    | .scalar text plain :: rest => some (.scalar text plain, rest)
    | .openList :: rest => (flowItems? true fuel rest).map fun (items, rest) => (.list items, rest)
    | .openMap :: rest =>
      (flowEntries? true fuel rest).map fun (entries, rest) => (.map entries, rest)
    | .beginList :: rest =>
      if block then (blockItems? fuel rest).map fun (items, rest) => (.list items, rest) else none
    | .beginMap :: rest =>
      if block then (blockEntries? fuel rest).map fun (entries, rest) => (.map entries, rest)
      else none
    | .entry :: _ =>
      if looseEntries then (looseItems? fuel tokens).map fun (items, rest) => (.list items, rest)
      else none
    | _ => none

/-- The entries of a block list up to its end. -/
def blockItems? : (fuel : Nat) → List Token → Option (List Node × List Token)
  | 0, _ => none
  | fuel + 1, tokens =>
    match tokens with
    | .endBlock :: rest => some ([], rest)
    | .entry :: rest =>
      let item? := match rest with
        | .entry :: _ | .endBlock :: _ => some (Node.empty, rest)
        | _ => node? true false fuel rest
      item?.bind fun (item, rest) =>
        (blockItems? fuel rest).map fun (items, rest) => (item :: items, rest)
    | _ => none

/-- Entries at the column of the key they belong to. -/
def looseItems? : (fuel : Nat) → List Token → Option (List Node × List Token)
  | 0, _ => none
  | fuel + 1, tokens =>
    match tokens with
    | .entry :: rest =>
      let item? := match rest with
        | .entry :: _ | .key :: _ | .value :: _ | .endBlock :: _ => some (Node.empty, rest)
        | _ => node? true false fuel rest
      item?.bind fun (item, rest) =>
        (looseItems? fuel rest).map fun (items, rest) => (item :: items, rest)
    | rest => some ([], rest)

/-- The keys and values of a block mapping up to its end. -/
def blockEntries? : (fuel : Nat) → List Token → Option (List (Node × Node) × List Token)
  | 0, _ => none
  | fuel + 1, tokens =>
    match tokens with
    | .endBlock :: rest => some ([], rest)
    | .key :: rest =>
      let key? := if endsBlockItem rest then some (Node.empty, rest) else node? true true fuel rest
      key?.bind fun (key, rest) =>
        let value? := match rest with
          | .value :: rest =>
            if endsBlockItem rest then some (Node.empty, rest) else node? true true fuel rest
          | rest => some (Node.empty, rest)
        value?.bind fun (value, rest) =>
          (blockEntries? fuel rest).map fun (entries, rest) => ((key, value) :: entries, rest)
    | _ => none

/-- The items in square brackets. A key among them makes a mapping of one entry. -/
def flowItems? (first : Bool) : (fuel : Nat) → List Token → Option (List Node × List Token)
  | 0, _ => none
  | fuel + 1, tokens =>
    let tokens? := match first, tokens with
      | true, tokens => some tokens
      | false, .closeList :: rest => some (.closeList :: rest)
      | false, .comma :: rest => some rest
      | false, _ => none
    match tokens? with
    | none => none
    | some (.closeList :: rest) => some ([], rest)
    | some (.key :: rest) =>
      (flowPair? .closeList fuel rest).bind fun (pair, rest) =>
        (flowItems? false fuel rest).map fun (items, rest) => (.map [pair] :: items, rest)
    | some tokens =>
      (node? false false fuel tokens).bind fun (item, rest) =>
        (flowItems? false fuel rest).map fun (items, rest) => (item :: items, rest)

/-- The entries in braces. A node without a colon is a key without a value. -/
def flowEntries? (first : Bool) :
    (fuel : Nat) → List Token → Option (List (Node × Node) × List Token)
  | 0, _ => none
  | fuel + 1, tokens =>
    let tokens? := match first, tokens with
      | true, tokens => some tokens
      | false, .closeMap :: rest => some (.closeMap :: rest)
      | false, .comma :: rest => some rest
      | false, _ => none
    match tokens? with
    | none => none
    | some (.closeMap :: rest) => some ([], rest)
    | some (.key :: rest) =>
      (flowPair? .closeMap fuel rest).bind fun (pair, rest) =>
        (flowEntries? false fuel rest).map fun (entries, rest) => (pair :: entries, rest)
    | some tokens =>
      (node? false false fuel tokens).bind fun (key, rest) =>
        (flowEntries? false fuel rest).map fun (entries, rest) =>
          ((key, Node.empty) :: entries, rest)

/-- A key and its value inside brackets, after the key's mark. -/
def flowPair? (close : Token) : (fuel : Nat) → List Token → Option ((Node × Node) × List Token)
  | 0, _ => none
  | fuel + 1, tokens =>
    let ends (tokens : List Token) : Bool := endsFlowItem close tokens
    let key? :=
      if ends tokens || tokens.head? == some .value then some (Node.empty, tokens)
      else node? false false fuel tokens
    key?.bind fun (key, rest) =>
      match rest with
      | .value :: rest =>
        if ends rest then some ((key, Node.empty), rest)
        else (node? false false fuel rest).map fun (value, rest) => ((key, value), rest)
      | rest => some ((key, Node.empty), rest)

end

/-- The node of a document after its start; nothing may follow its end. -/
def document? (tokens : List Token) : Option Node :=
  let read? := match tokens with
    | [] | .directive :: _ | .documentStart :: _ | .documentEnd :: _ => some (Node.empty, tokens)
    | _ => node? true false (4 * tokens.length + 4) tokens
  read?.bind fun (node, rest) =>
    if rest.all (· == .documentEnd) then some node else none

/-- The one document of the tokens, absent when there are none; malformed tokens give nothing. -/
def Node.ofTokens? (tokens : List Token) : Option (Option Node) :=
  match tokens with
  | [] => some none
  | .directive :: _ | .documentStart :: _ =>
    match tokens.dropWhile (· == .directive) with
    | .documentStart :: rest => (document? rest).map some
    | _ => none
  | .documentEnd :: _ => none
  | _ => (document? tokens).map some

end ScriptDialog.Yaml
