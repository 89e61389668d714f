import UpperEcho.Toml.Scalar
import UpperEcho.Toml.Tree

/-! Reading a TOML document into its sections. The readers that call each other take fuel; each step
takes a character, so the text's length plus one is never used up. -/
namespace UpperEcho.Toml

def skipBlank : List Char → List Char
  | ' ' :: rest => skipBlank rest
  | '\t' :: rest => skipBlank rest
  | cs => cs

def skipBlankLines : List Char → List Char
  | ' ' :: rest => skipBlankLines rest
  | '\t' :: rest => skipBlankLines rest
  | '\n' :: rest => skipBlankLines rest
  | cs => cs

def skipComment : List Char → List Char
  | c :: rest => if c == '\t' || 32 ≤ c.toNat then skipComment rest else c :: rest
  | [] => []

def lineEnd : List Char → Option (List Char)
  | [] => some []
  | '\n' :: rest => some rest
  | _ => none

def finishLine : List Char → Option (List Char)
  | '#' :: rest => lineEnd (skipComment rest)
  | cs => lineEnd cs

def arrayGap : Nat → List Char → Option (List Char)
  | 0, _ => none
  | fuel + 1, cs =>
    match skipBlank cs with
    | '\n' :: rest => arrayGap fuel rest
    | '#' :: rest => lineEnd (skipComment rest) >>= arrayGap fuel
    | rest => some rest

def isStringChar (c : Char) : Bool := c == '\t' || (32 ≤ c.toNat && c.toNat != 127)

def hexValue : Nat → List Char → Option (Nat × List Char)
  | 0, cs => some (0, cs)
  | n + 1, c :: rest => do
    let d ← if c.toNat < 128 then digitIn 16 c else none
    let (v, cs) ← hexValue n rest
    return (d * Nat.pow 16 n + v, cs)
  | _ + 1, [] => none

def escaped : Char → Option Char
  | '"' => some '"'
  | '\\' => some '\\'
  | 'b' => some (Char.ofNat 8)
  | 'f' => some (Char.ofNat 12)
  | 'n' => some '\n'
  | 'r' => some '\r'
  | 't' => some '\t'
  | _ => none

def skipEscapedLine : List Char → Option (List Char)
  | ' ' :: rest => skipEscapedLine rest
  | '\t' :: rest => skipEscapedLine rest
  | '\n' :: rest => some rest
  | [] => some []
  | _ => none

def closeMulti (q : Char) (body : List Char) : List Char → String × List Char
  | a :: rest =>
    if a == q then
      match rest with
      | b :: more => if b == q then (String.ofList (body ++ [q, q]), more)
        else (String.ofList (body ++ [q]), rest)
      | [] => (String.ofList (body ++ [q]), [])
    else (String.ofList body, a :: rest)
  | [] => (String.ofList body, [])

def basicBody (multi : Bool) : Nat → Bool → List Char → List Char → Option (String × List Char)
  | 0, _, _, _ => none
  | fuel + 1, first, acc, cs =>
    match cs with
    | [] => none
    | '\n' :: rest =>
      if multi then basicBody multi fuel false (if first then acc else '\n' :: acc) rest else none
    | '"' :: rest =>
      if !multi then some (String.ofList acc.reverse, rest)
      else
        match rest with
        | '"' :: '"' :: more => some (closeMulti '"' acc.reverse more)
        | '"' :: more => basicBody multi fuel false ('"' :: '"' :: acc) more
        | _ => basicBody multi fuel false ('"' :: acc) rest
    | '\\' :: rest =>
      match rest with
      | 'u' :: more => do
        let (v, more) ← hexValue 4 more
        if v.isValidChar then basicBody multi fuel false (Char.ofNat v :: acc) more else none
      | 'U' :: more => do
        let (v, more) ← hexValue 8 more
        if v.isValidChar then basicBody multi fuel false (Char.ofNat v :: acc) more else none
      | c :: more =>
        match escaped c with
        | some e => basicBody multi fuel false (e :: acc) more
        | none =>
          if multi && (c == ' ' || c == '\t' || c == '\n') then do
            let more ← if c == '\n' then some more else skipEscapedLine more
            basicBody multi fuel false acc (skipBlankLines more)
          else none
      | [] => none
    | c :: rest => if isStringChar c then basicBody multi fuel false (c :: acc) rest else none

def literalBody (multi : Bool) : Nat → Bool → List Char → List Char → Option (String × List Char)
  | 0, _, _, _ => none
  | fuel + 1, first, acc, cs =>
    match cs with
    | [] => none
    | '\n' :: rest =>
      if multi then literalBody multi fuel false (if first then acc else '\n' :: acc) rest else none
    | '\'' :: rest =>
      if !multi then some (String.ofList acc.reverse, rest)
      else
        match rest with
        | '\'' :: '\'' :: more => some (closeMulti '\'' acc.reverse more)
        | '\'' :: more => literalBody multi fuel false ('\'' :: '\'' :: acc) more
        | _ => literalBody multi fuel false ('\'' :: acc) rest
    | c :: rest => if isStringChar c then literalBody multi fuel false (c :: acc) rest else none

def readQuoted (q : Char) (cs : List Char) : Option (String × Bool × List Char) :=
  let body (multi : Bool) (cs : List Char) : Option (String × List Char) :=
    if q == '"' then basicBody multi (cs.length + 1) true [] cs
    else literalBody multi (cs.length + 1) true [] cs
  match cs with
  | a :: rest =>
    if a == q then
      match rest with
      | b :: more =>
        if b == q then (body true more).map fun (s, r) => (s, true, r) else some ("", false, rest)
      | [] => some ("", false, [])
    else (body false cs).map fun (s, r) => (s, false, r)
  | [] => none

def readKey (cs : List Char) : Option (String × List Char) :=
  match cs with
  | '"' :: rest =>
    match readQuoted '"' rest with
    | some (s, false, r) => some (s, r)
    | _ => none
  | '\'' :: rest =>
    match readQuoted '\'' rest with
    | some (s, false, r) => some (s, r)
    | _ => none
  | _ =>
    let (run, rest) := keylikeRun cs
    if run.isEmpty then none else some (String.ofList run, rest)

def dottedKey : Nat → List Char → Option (List String × List Char)
  | 0, _ => none
  | fuel + 1, cs => do
    let (k, rest) ← readKey cs
    match skipBlank rest with
    | '.' :: more =>
      let (ks, r) ← dottedKey fuel (skipBlank more)
      return (k :: ks, r)
    | r => return ([k], r)

def word (cs : List Char) : Option (List Char × List Char) :=
  let (w, rest) := keylikeRun cs
  if w.isEmpty then none else some (w, rest)

def optionalPart (c : Char) (cs : List Char) : Option (List Char) :=
  match cs with
  | d :: rest => if c == d then (word rest).map Prod.snd else some cs
  | [] => some []

def readDatetime (rest : List Char) (colonRead : Bool) : Option (TomlValue × List Char) :=
  let rest := match rest with
    | ' ' :: c :: more => if isKeylike c then (keylikeRun (c :: more)).2 else rest
    | _ => rest
  let afterColon : Option (List Char) :=
    if colonRead then some rest
    else match rest with
      | ':' :: r => some r
      | _ => none
  match afterColon with
  | none => some (.datetime, rest)
  | some r => do
    let (_, r) ← word r
    let r ← expect ':' r
    let (_, r) ← word r
    let r ← optionalPart '.' r
    let r ← optionalPart '+' r
    let r ← optionalPart ':' r
    some (.datetime, r)

def readFloat (s : List Char) (after : Option (List Char)) (rest : List Char) :
    Option (List Char) := do
  let (whole, suffix) ← scanInteger true false 10 s
  let (frac, suffix) ← match after with
    | none => some ([], suffix)
    | some a => if suffix.isEmpty then scanInteger false true 10 a else none
  let (exp, rest) ← match suffix with
    | [] => some ([], rest)
    | [e] =>
      if e == 'e' || e == 'E' then do
        let r := match rest with
          | '+' :: r => r
          | r => r
        let (w, r) ← word r
        let (a, b) ← scanInteger false true 10 w
        if b.isEmpty then some (a, r) else none
      else none
    | e :: more =>
      if e == 'e' || e == 'E' then do
        let (a, b) ← scanInteger true true 10 more
        if b.isEmpty then some (a, rest) else none
      else none
  if finiteFloat whole frac exp then some rest else none

def readNumber (run rest : List Char) : Option (TomlValue × List Char) :=
  match run with
  | '0' :: 'x' :: ds => (integerOf ds 16).map fun v => (.integer v, rest)
  | '0' :: 'o' :: ds => (integerOf ds 8).map fun v => (.integer v, rest)
  | '0' :: 'b' :: ds => (integerOf ds 2).map fun v => (.integer v, rest)
  | _ =>
    if run.contains 'e' || run.contains 'E' then (readFloat run none rest).map fun r => (.float, r)
    else
      match rest with
      | '.' :: more => do
        let (after, r) ← word more
        let r ← readFloat run (some after) r
        return (.float, r)
      | _ =>
        if run == "inf".toList || run == "-inf".toList || run == "nan".toList ||
          run == "-nan".toList then some (.float, rest)
        else (integerOf run 10).map fun v => (.integer v, rest)

def hasPair (a b : Char) : List Char → Bool
  | x :: y :: rest => (x == a && y == b) || hasPair a b (y :: rest)
  | _ => false

def readWord (run rest : List Char) : Option (TomlValue × List Char) :=
  if run.contains 'T' || run.contains 't' ||
    (1 < run.length && run.tail.contains '-' && !hasPair 'e' '-' run && !hasPair 'E' '-' run) then
    readDatetime rest false
  else
    match rest with
    | ':' :: more => readDatetime more true
    | _ => readNumber run rest

mutual

def readValue : Nat → List Char → Option (TomlValue × List Char)
  | 0, _ => none
  | fuel + 1, cs =>
    match cs with
    | '"' :: rest => (readQuoted '"' rest).map fun (s, _, r) => (.string s, r)
    | '\'' :: rest => (readQuoted '\'' rest).map fun (s, _, r) => (.string s, r)
    | '[' :: rest => (arrayItems fuel rest).map fun r => (.array, r)
    | '{' :: rest =>
      match skipBlank rest with
      | '}' :: r => some (.inlineTable, r)
      | r => (inlinePairs fuel [] r).map fun r => (.inlineTable, r)
    | '+' :: rest => do
      let (run, r) ← word rest
      readNumber run r
    | _ => do
      let (run, r) ← word cs
      if run == "true".toList then some (.boolean true, r)
      else if run == "false".toList then some (.boolean false, r)
      else readWord run r

def arrayItems : Nat → List Char → Option (List Char)
  | 0, _ => none
  | fuel + 1, cs => do
    let cs ← arrayGap (cs.length + 1) cs
    match cs with
    | ']' :: rest => some rest
    | _ =>
      let (_, cs) ← readValue fuel cs
      let cs ← arrayGap (cs.length + 1) cs
      match cs with
      | ',' :: rest => arrayItems fuel rest
      | ']' :: rest => some rest
      | _ => none

def inlinePairs : Nat → Pairs → List Char → Option (List Char)
  | 0, _, _ => none
  | fuel + 1, ps, cs => do
    let (key, cs) ← dottedKey (cs.length + 1) cs
    let cs ← expect '=' cs
    let (v, cs) ← readValue fuel (skipBlank cs)
    let ps ← insertDotted key v ps
    match skipBlank cs with
    | '}' :: rest => some rest
    | ',' :: rest => inlinePairs fuel ps (skipBlank rest)
    | _ => none

end

inductive Line where
  | assign (key : List String) (v : TomlValue)
  | table (path : List String)
  | arrayTable (path : List String)

def readLines : Nat → List Char → List Line → Option (List Line)
  | 0, _, _ => none
  | fuel + 1, cs, acc =>
    match skipBlank cs with
    | [] => some acc.reverse
    | '\n' :: rest => readLines fuel rest acc
    | '#' :: rest => lineEnd (skipComment rest) >>= fun r => readLines fuel r acc
    | '[' :: rest => do
      let (isArray, rest) := match rest with
        | '[' :: r => (true, r)
        | r => (false, r)
      let (path, r) ← dottedKey (rest.length + 1) (skipBlank rest)
      let r ← expect ']' r
      let r ← if isArray then expect ']' r else some r
      let r ← finishLine (skipBlank r)
      readLines fuel r ((if isArray then Line.arrayTable path else Line.table path) :: acc)
    | cs => do
      let (key, r) ← dottedKey (cs.length + 1) cs
      let r ← expect '=' r
      let (v, r) ← readValue (r.length + 1) (skipBlank r)
      let r ← finishLine (skipBlank r)
      readLines fuel r (Line.assign key v :: acc)

def closeSection (cur : Section) (present : Bool) (done : List Section) : List Section :=
  if !cur.path.isEmpty || present then cur :: done else done

def sectionsOf : List Line → Section → Bool → List Section → Option (List Section)
  | [], cur, present, done => some (closeSection cur present done).reverse
  | .assign key v :: rest, cur, _, done => do
    let ps ← insertDotted key v cur.pairs
    sectionsOf rest { cur with pairs := ps } true done
  | .table path :: rest, cur, present, done =>
    sectionsOf rest ⟨path, false, []⟩ true (closeSection cur present done)
  | .arrayTable path :: rest, cur, present, done =>
    sectionsOf rest ⟨path, true, []⟩ true (closeSection cur present done)

def foldCrlf : List Char → List Char
  | '\r' :: '\n' :: rest => '\n' :: foldCrlf rest
  | c :: rest => c :: foldCrlf rest
  | [] => []

def parseDocument (text : String) : Option (List Section) :=
  let cs := match text.toList with
    | c :: rest => if c.toNat == 0xFEFF then rest else c :: rest
    | [] => []
  let cs := foldCrlf cs
  readLines (cs.length + 1) cs [] >>= fun lines => sectionsOf lines ⟨[], false, []⟩ false []

end UpperEcho.Toml
