import InfinibandCheck.Types

/-!
`encoding/json` as the component calls it: `json.Marshal` of a
`[]infiniband.IBPort` and `json.Unmarshal` of stored text into one. The encoder
is Go's `appendString` with HTML escaping on, fields in declaration order. The
decoder reads the whole RFC 8259 grammar (Go checks the full text before it
stores anything) and then stores values as `decodeState` does: unknown keys are
skipped, `null` leaves a field as it was, a type mismatch fails the whole call.
Keys match a field up to ASCII case; Go also folds the Kelvin sign and the long
s, which is not modelled. Parsing runs on fuel; the text's length is enough,
since every nesting level and every element reads at least one character.
Modelled from the spec: the JSON names of `IBPort`'s fields (`IBPort` is not in
this repository's sources).
-/

namespace Infiniband

def hexDigit (n : Nat) : Char := "0123456789abcdef".toList.getD n '0'

def hexValue (c : Char) : Option Nat :=
  if '0' ≤ c ∧ c ≤ '9' then some (c.toNat - 48)
  else if 'a' ≤ c ∧ c ≤ 'f' then some (c.toNat - 87)
  else if 'A' ≤ c ∧ c ≤ 'F' then some (c.toNat - 55)
  else none

theorem hexValue_hexDigit : ∀ n : Nat, n < 16 → hexValue (hexDigit n) = some n
  | 0, _ | 1, _ | 2, _ | 3, _ | 4, _ | 5, _ | 6, _ | 7, _ | 8, _ | 9, _ | 10, _ | 11, _
  | 12, _ | 13, _ | 14, _ | 15, _ => by decide
  | _ + 16, h => absurd h (by omega)

/-! ## Encoding -/

def htmlSafe (c : Char) : Bool :=
  0x20 ≤ c.toNat && c.toNat < 0x80 && c.toNat != 0x22 && c.toNat != 0x5c &&
    c.toNat != 0x3c && c.toNat != 0x3e && c.toNat != 0x26

/-- The text `appendString` writes for one rune (Go 1.22 and later). -/
def escapeChar (c : Char) : List Char :=
  if c.toNat < 0x80 then
    if htmlSafe c then [c]
    else if c.toNat = 0x22 ∨ c.toNat = 0x5c then ['\\', c]
    else if c.toNat = 0x08 then ['\\', 'b']
    else if c.toNat = 0x0c then ['\\', 'f']
    else if c.toNat = 0x0a then ['\\', 'n']
    else if c.toNat = 0x0d then ['\\', 'r']
    else if c.toNat = 0x09 then ['\\', 't']
    else ['\\', 'u', '0', '0', hexDigit (c.toNat / 16), hexDigit (c.toNat % 16)]
  else if c.toNat = 0x2028 ∨ c.toNat = 0x2029 then
    ['\\', 'u', '2', '0', '2', hexDigit (c.toNat % 16)]
  else [c]

def quoteChar : Char := Char.ofNat 0x22

def quote (s : String) : List Char :=
  quoteChar :: s.data.flatMap escapeChar ++ [quoteChar]

def marshalMember (key : String) (value : List Char) : List Char :=
  quote key ++ ':' :: value

def marshalIBPort (p : IBPort) : List Char :=
  '\x7b' :: List.intercalate [','] [marshalMember "device" (quote p.device),
    marshalMember "state" (quote p.state), marshalMember "physical_state" (quote p.physicalState),
    marshalMember "rate" (toString p.rate).data] ++ ['\x7d']

def marshalIBPorts (ports : List IBPort) : String :=
  ⟨'[' :: List.intercalate [','] (ports.map marshalIBPort) ++ [']']⟩

/-! ## Decoding -/

inductive JsonValue where
  | null
  | bool (b : Bool)
  | number (literal : List Char)
  | string (s : List Char)
  | array (items : List JsonValue)
  | object (members : List (List Char × JsonValue))

def isWs (c : Char) : Bool := c.toNat == 0x20 || c.toNat == 0x09 || c.toNat == 0x0a || c.toNat == 0x0d

def skipWs (cs : List Char) : List Char := cs.dropWhile isWs

def hex4 (a b c d : Char) : Option Nat := do
  pure ((((← hexValue a) * 16 + (← hexValue b)) * 16 + (← hexValue c)) * 16 + (← hexValue d))

def isSurrogate (r : Nat) : Bool := 0xD800 ≤ r && r < 0xE000

def replacementChar : Char := Char.ofNat 0xFFFD

def decodeSurrogates (r1 r2 : Nat) : Option Char :=
  if 0xD800 ≤ r1 ∧ r1 < 0xDC00 ∧ 0xDC00 ≤ r2 ∧ r2 < 0xE000 then
    some (Char.ofNat ((r1 - 0xD800) * 0x400 + (r2 - 0xDC00) + 0x10000))
  else none

def surrogatePair (r : Nat) : List Char → Char × List Char
  | '\\' :: 'u' :: e :: f :: g :: h :: rest =>
    match hex4 e f g h >>= decodeSurrogates r with
    | some ch => (ch, rest)
    | none => (replacementChar, '\\' :: 'u' :: e :: f :: g :: h :: rest)
  | rest => (replacementChar, rest)

def shortEscape (e : Char) : Option Char :=
  if e.toNat = 0x22 ∨ e.toNat = 0x5c ∨ e = '/' then some e
  else if e = 'b' then some (Char.ofNat 0x08)
  else if e = 'f' then some (Char.ofNat 0x0c)
  else if e = 'n' then some (Char.ofNat 0x0a)
  else if e = 'r' then some (Char.ofNat 0x0d)
  else if e = 't' then some (Char.ofNat 0x09)
  else none

def unescape : List Char → Option (Char × List Char)
  | 'u' :: a :: b :: c :: d :: rest => do
    let r ← hex4 a b c d
    if isSurrogate r then some (surrogatePair r rest) else some (Char.ofNat r, rest)
  | e :: rest => (shortEscape e).map (·, rest)
  | [] => none

def consChar (c : Char) (o : Option (List Char × List Char)) : Option (List Char × List Char) :=
  o.map fun p => (c :: p.1, p.2)

def stringBody : Nat → List Char → Option (List Char × List Char)
  | 0, _ => none
  | _ + 1, [] => none
  | n + 1, c :: rest =>
    if c.toNat = 0x22 then some ([], rest)
    else if c.toNat = 0x5c then
      match unescape rest with
      | some (ch, rest) => consChar ch (stringBody n rest)
      | none => none
    else if c.toNat < 0x20 then none
    else consChar c (stringBody n rest)

def digitSpan (cs : List Char) : List Char × List Char := cs.span Char.isDigit

def fractionPart : List Char → Option (List Char × List Char)
  | '.' :: rest =>
    let (ds, rest) := digitSpan rest
    if ds.isEmpty then none else some ('.' :: ds, rest)
  | rest => some ([], rest)

def exponentPart : List Char → Option (List Char × List Char)
  | e :: rest =>
    if e = 'e' ∨ e = 'E' then
      let (sign, rest) := match rest with
        | '+' :: r => (['+'], r)
        | '-' :: r => (['-'], r)
        | r => ([], r)
      let (ds, rest) := digitSpan rest
      if ds.isEmpty then none else some (e :: sign ++ ds, rest)
    else some ([], e :: rest)
  | [] => some ([], [])

def integerPart : List Char → Option (List Char × List Char)
  | '0' :: rest => some (['0'], rest)
  | c :: rest =>
    if '1' ≤ c ∧ c ≤ '9' then let (ds, rest) := digitSpan rest; some (c :: ds, rest) else none
  | [] => none

def numberLiteral (cs : List Char) : Option (List Char × List Char) := do
  let (sign, cs) := match cs with
    | '-' :: r => (['-'], r)
    | r => ([], r)
  let (int, cs) ← integerPart cs
  let (frac, cs) ← fractionPart cs
  let (exp, cs) ← exponentPart cs
  pure (sign ++ int ++ frac ++ exp, cs)

def elements (value : List Char → Option (JsonValue × List Char)) :
    Nat → List Char → Option (List JsonValue × List Char)
  | 0, _ => none
  | n + 1, cs => do
    let (v, rest) ← value cs
    match skipWs rest with
    | ',' :: rest => do
      let (vs, rest) ← elements value n rest
      pure (v :: vs, rest)
    | ']' :: rest => pure ([v], rest)
    | _ => none

def members (value : List Char → Option (JsonValue × List Char)) :
    Nat → List Char → Option (List (List Char × JsonValue) × List Char)
  | 0, _ => none
  | n + 1, cs =>
    match skipWs cs with
    | c :: rest =>
      if c.toNat = 0x22 then do
        let (key, rest) ← stringBody rest.length rest
        match skipWs rest with
        | ':' :: rest => do
          let (v, rest) ← value rest
          match skipWs rest with
          | ',' :: rest => do
            let (ms, rest) ← members value n rest
            pure ((key, v) :: ms, rest)
          | '\x7d' :: rest => pure ([(key, v)], rest)
          | _ => none
        | _ => none
      else none
    | [] => none

def value : Nat → List Char → Option (JsonValue × List Char)
  | 0, _ => none
  | n + 1, cs =>
    match skipWs cs with
    | 'n' :: 'u' :: 'l' :: 'l' :: rest => some (.null, rest)
    | 't' :: 'r' :: 'u' :: 'e' :: rest => some (.bool true, rest)
    | 'f' :: 'a' :: 'l' :: 's' :: 'e' :: rest => some (.bool false, rest)
    | '[' :: rest =>
      match skipWs rest with
      | ']' :: rest => some (.array [], rest)
      | _ => (elements (value n) n rest).map fun p => (.array p.1, p.2)
    | '\x7b' :: rest =>
      match skipWs rest with
      | '\x7d' :: rest => some (.object [], rest)
      | _ => (members (value n) n rest).map fun p => (.object p.1, p.2)
    | c :: rest =>
      if c.toNat = 0x22 then (stringBody rest.length rest).map fun p => (.string p.1, p.2)
      else (numberLiteral (c :: rest)).map fun p => (.number p.1, p.2)
    | [] => none

def parseJson (text : List Char) : Option JsonValue := do
  let (v, rest) ← value (text.length + 1) text
  if skipWs rest = [] then some v else none

def parseInt64 (lit : List Char) : Option Int :=
  let (negative, ds) := match lit with
    | '-' :: r => (true, r)
    | r => (false, r)
  if !ds.isEmpty && ds.all Char.isDigit then
    let n : Int := ds.foldl (fun acc d => acc * 10 + (d.toNat - 48)) 0
    let v := if negative then -n else n
    if -9223372036854775808 ≤ v ∧ v ≤ 9223372036854775807 then some v else none
  else none

def matchesField (key : List Char) (name : String) : Bool :=
  key == name.data || key.map Char.toUpper == name.data.map Char.toUpper

def literalString : JsonValue → Option (Option String)
  | .null => some none
  | .string s => some (some ⟨s⟩)
  | _ => none

def literalInt : JsonValue → Option (Option Int)
  | .null => some none
  | .number lit => (parseInt64 lit).map some
  | _ => none

def storeMember (port : IBPort) (member : List Char × JsonValue) : Option IBPort :=
  if matchesField member.1 "device" then
    (literalString member.2).map fun s => { port with device := s.getD port.device }
  else if matchesField member.1 "state" then
    (literalString member.2).map fun s => { port with state := s.getD port.state }
  else if matchesField member.1 "physical_state" then
    (literalString member.2).map fun s => { port with physicalState := s.getD port.physicalState }
  else if matchesField member.1 "rate" then
    (literalInt member.2).map fun n => { port with rate := n.getD port.rate }
  else some port

def zeroIBPort : IBPort := ⟨"", "", "", 0⟩

def unmarshalIBPort : JsonValue → Option IBPort
  | .null => some zeroIBPort
  | .object ms => ms.foldlM storeMember zeroIBPort
  | _ => none

def unmarshalIBPorts : JsonValue → Option (List IBPort)
  | .null => some []
  | .array items => items.mapM unmarshalIBPort
  | _ => none

/-- `json.Unmarshal([]byte(raw), &ports)` with `var ports []infiniband.IBPort`;
`none` is a returned error. -/
def unmarshal (raw : String) : Option (List IBPort) :=
  parseJson raw.data >>= unmarshalIBPorts

/-! ## Round trip

What `convertToIbstatEvent` writes, `parseIBPortsFromEvent` reads back: every
string survives `appendString`'s escaping, and the rate it writes is zero. -/
theorem stringBody_raw {c : Char} (notQuote : c.toNat ≠ 0x22) (notBackslash : c.toNat ≠ 0x5c)
    (printable : 0x20 ≤ c.toNat) (n : Nat) (rest : List Char) :
    stringBody (n + 1) (c :: rest) = consChar c (stringBody n rest) := by
  simp only [stringBody, if_neg notQuote, if_neg notBackslash, if_neg (Nat.not_lt.mpr printable)]

theorem stringBody_escape {tail rest : List Char} {ch : Char}
    (unescaped : unescape tail = some (ch, rest)) (n : Nat) :
    stringBody (n + 1) ('\\' :: tail) = consChar ch (stringBody n rest) := by
  simp [stringBody, unescaped]

theorem hex4_digits (k : Nat) (small : k < 0x10000) :
    hex4 (hexDigit (k / 4096)) (hexDigit (k / 256 % 16)) (hexDigit (k / 16 % 16))
      (hexDigit (k % 16)) = some k := by
  simp only [hex4, hexValue_hexDigit _ (show k / 4096 < 16 by omega),
    hexValue_hexDigit _ (show k / 256 % 16 < 16 by omega),
    hexValue_hexDigit _ (show k / 16 % 16 < 16 by omega), hexValue_hexDigit _ (show k % 16 < 16 by omega)]
  simp only [Option.pure_def, Option.bind_eq_bind, Option.some_bind, Option.some.injEq]
  omega

theorem unescape_hex (k : Nat) (small : k < 0xD800) (tail : List Char) :
    unescape ('u' :: hexDigit (k / 4096) :: hexDigit (k / 256 % 16) :: hexDigit (k / 16 % 16) ::
      hexDigit (k % 16) :: tail) = some (Char.ofNat k, tail) := by
  simp [unescape, hex4_digits k (by omega), isSurrogate, small]

theorem stringBody_escapeChar (c : Char) (n : Nat) (tail : List Char) :
    stringBody (n + 1) (escapeChar c ++ tail) = consChar c (stringBody n tail) := by
  have self : Char.ofNat c.toNat = c := Char.ofNat_toNat c
  rw [escapeChar]
  by_cases ascii : c.toNat < 0x80
  swap
  · rw [if_neg ascii]
    by_cases separator : c.toNat = 0x2028 ∨ c.toNat = 0x2029
    · rw [if_pos separator]
      have key := unescape_hex c.toNat (by omega) tail
      rw [show c.toNat / 4096 = 2 by omega, show c.toNat / 256 % 16 = 0 by omega,
        show c.toNat / 16 % 16 = 2 by omega, self] at key
      exact stringBody_escape key n
    · rw [if_neg separator]
      exact stringBody_raw (by omega) (by omega) (by omega) n tail
  rw [if_pos ascii]
  by_cases safe : htmlSafe c
  · rw [if_pos safe]
    simp only [htmlSafe, Bool.and_eq_true, decide_eq_true_eq, bne_iff_ne, ne_eq] at safe
    exact stringBody_raw (by omega) (by omega) (by omega) n tail
  rw [if_neg safe]
  by_cases special : c.toNat = 0x22 ∨ c.toNat = 0x5c
  · rw [if_pos special]
    rcases special with h | h <;> (rw [← self, h]; rfl)
  rw [if_neg special]
  by_cases backspace : c.toNat = 0x08
  · rw [if_pos backspace, ← self, backspace]; rfl
  rw [if_neg backspace]
  by_cases formfeed : c.toNat = 0x0c
  · rw [if_pos formfeed, ← self, formfeed]; rfl
  rw [if_neg formfeed]
  by_cases newline : c.toNat = 0x0a
  · rw [if_pos newline, ← self, newline]; rfl
  rw [if_neg newline]
  by_cases ret : c.toNat = 0x0d
  · rw [if_pos ret, ← self, ret]; rfl
  rw [if_neg ret]
  by_cases tab : c.toNat = 0x09
  · rw [if_pos tab, ← self, tab]; rfl
  rw [if_neg tab]
  have key := unescape_hex c.toNat (by omega) tail
  rw [show c.toNat / 4096 = 0 by omega, show c.toNat / 256 % 16 = 0 by omega,
    show c.toNat / 16 % 16 = c.toNat / 16 by omega, self] at key
  exact stringBody_escape key n

theorem escapeChar_length_pos (c : Char) : 0 < (escapeChar c).length := by
  refine List.length_pos.mpr fun empty => ?_
  have closed := stringBody_escapeChar c 0 [quoteChar]
  rw [empty] at closed
  exact absurd closed nofun

theorem stringBody_quote (s rest : List Char) (n : Nat) (fuel : (s.flatMap escapeChar).length < n) :
    stringBody n (s.flatMap escapeChar ++ quoteChar :: rest) = some (s, rest) := by
  obtain ⟨m, rfl⟩ : ∃ m, n = m + 1 := ⟨n - 1, by omega⟩
  induction s generalizing m with
  | nil => rfl
  | cons c cs ih =>
    have wide := escapeChar_length_pos c
    simp only [List.flatMap_cons, List.length_append] at fuel
    obtain ⟨m, rfl⟩ : ∃ k, m = k + 1 := ⟨m - 1, by omega⟩
    rw [List.flatMap_cons, List.append_assoc, stringBody_escapeChar, ih m (by omega)]
    rfl

theorem value_string (n : Nat) (text : List Char) :
    value (n + 1) (quoteChar :: text) = (stringBody text.length text).map fun p => (.string p.1, p.2) :=
  rfl

theorem value_quote (s : String) (n : Nat) (rest : List Char) :
    value (n + 1) (quote s ++ rest) = some (.string s.data, rest) := by
  simp only [quote, List.cons_append, List.append_assoc, List.singleton_append, value_string]
  rw [stringBody_quote _ _ _ (by simp)]
  rfl

theorem value_zero (n : Nat) (rest : List Char) :
    value (n + 1) ('0' :: '\x7d' :: rest) = some (.number ['0'], '\x7d' :: rest) := rfl

@[simp] theorem quoteChar_toNat : quoteChar.toNat = 0x22 := rfl

theorem skipWs_quote (rest : List Char) : skipWs (quoteChar :: rest) = quoteChar :: rest := rfl

theorem skipWs_colon (rest : List Char) : skipWs (':' :: rest) = ':' :: rest := rfl

theorem skipWs_comma (rest : List Char) : skipWs (',' :: rest) = ',' :: rest := rfl

theorem skipWs_brace (rest : List Char) : skipWs ('\x7d' :: rest) = '\x7d' :: rest := rfl

theorem skipWs_bracket (rest : List Char) : skipWs (']' :: rest) = ']' :: rest := rfl

theorem members_cons (v : List Char → Option (JsonValue × List Char)) (k : Nat) (key : String)
    (text rest : List Char) (j : JsonValue) (parsed : v (text ++ ',' :: rest) = some (j, ',' :: rest)) :
    members v (k + 1) (quote key ++ ':' :: (text ++ ',' :: rest)) =
      (members v k rest).map fun p => ((key.data, j) :: p.1, p.2) := by
  simp only [members, quote, List.cons_append, List.append_assoc, List.singleton_append, skipWs_quote]
  rw [stringBody_quote _ _ _ (by simp)]
  simp only [quoteChar_toNat, ↓reduceIte, Option.bind_eq_bind, Option.some_bind, List.nil_append,
    skipWs_colon, parsed, skipWs_comma]
  cases members v k rest <;> rfl

theorem members_last (v : List Char → Option (JsonValue × List Char)) (k : Nat) (key : String)
    (text rest : List Char) (j : JsonValue)
    (parsed : v (text ++ '\x7d' :: rest) = some (j, '\x7d' :: rest)) :
    members v (k + 1) (quote key ++ ':' :: (text ++ '\x7d' :: rest)) = some ([(key.data, j)], rest) := by
  simp only [members, quote, List.cons_append, List.append_assoc, List.singleton_append, skipWs_quote]
  rw [stringBody_quote _ _ _ (by simp)]
  simp only [quoteChar_toNat, ↓reduceIte, Option.bind_eq_bind, Option.some_bind, List.nil_append,
    skipWs_colon, parsed, skipWs_brace]
  rfl

def ibPortJson (p : IBPort) : JsonValue :=
  .object [("device".data, .string p.device.data), ("state".data, .string p.state.data),
    ("physical_state".data, .string p.physicalState.data), ("rate".data, .number ['0'])]

theorem value_object (n : Nat) (key : String) (text : List Char) :
    value (n + 1) ('\x7b' :: (quote key ++ text)) =
      (members (value n) n (quote key ++ text)).map fun p => (.object p.1, p.2) := by
  simp only [quote, List.cons_append]
  rfl

theorem value_marshalIBPort (p : IBPort) (zeroRate : p.rate = 0) {m : Nat} (fuel : 6 ≤ m)
    (rest : List Char) : value m (marshalIBPort p ++ rest) = some (ibPortJson p, rest) := by
  obtain ⟨n, rfl⟩ : ∃ n, m = n + 6 := ⟨m - 6, by omega⟩
  simp only [marshalIBPort, marshalMember, zeroRate, List.intercalate, List.intersperse,
    List.flatten, List.cons_append, List.append_assoc, List.nil_append, List.append_nil]
  rw [value_object, members_cons _ _ _ _ _ _ (value_quote _ _ _),
    members_cons _ _ _ _ _ _ (value_quote _ _ _), members_cons _ _ _ _ _ _ (value_quote _ _ _),
    members_last _ _ _ _ _ _ (value_zero _ _)]
  rfl

theorem intercalate_comma_cons (x y : List Char) (ys : List (List Char)) :
    List.intercalate [','] (x :: y :: ys) = x ++ ',' :: List.intercalate [','] (y :: ys) := by
  simp [List.intercalate, List.intersperse]

theorem elements_marshal (ports : List IBPort) (zeroRates : ∀ p ∈ ports, p.rate = 0)
    (nonempty : ports ≠ []) {m k : Nat} (deep : 6 ≤ m) (fuel : ports.length ≤ k) (rest : List Char) :
    elements (value m) k (List.intercalate [','] (ports.map marshalIBPort) ++ ']' :: rest) =
      some (ports.map ibPortJson, rest) := by
  induction ports generalizing k with
  | nil => contradiction
  | cons p ps ih =>
    obtain ⟨k, rfl⟩ : ∃ j, k = j + 1 := ⟨k - 1, by simp at fuel; omega⟩
    have head := value_marshalIBPort p (zeroRates p (List.mem_cons_self p ps)) deep
    cases ps with
    | nil =>
      simp only [elements, List.map_cons, List.map_nil, List.intercalate, List.intersperse, List.flatten,
        List.append_nil, head, skipWs_bracket, Option.bind_eq_bind, Option.some_bind]
      rfl
    | cons q qs =>
      have tail := ih (fun r hr => zeroRates r (List.mem_cons_of_mem p hr)) (List.cons_ne_nil q qs) (k := k)
        (by simp only [List.length_cons] at fuel ⊢; omega)
      rw [List.map_cons, List.map_cons, intercalate_comma_cons, List.append_assoc, List.cons_append]
      simp only [List.map_cons] at tail
      simp only [elements, head, skipWs_comma, tail, Option.bind_eq_bind, Option.some_bind]
      rfl

theorem marshalIBPort_start (p : IBPort) : ∃ tail, marshalIBPort p = '\x7b' :: tail := ⟨_, rfl⟩

theorem marshalIBPort_length (p : IBPort) : 6 ≤ (marshalIBPort p).length := by
  simp only [marshalIBPort, marshalMember, List.intercalate, List.intersperse, List.flatten,
    List.length_cons, List.length_append]
  omega

theorem marshalIBPorts_start (ports : List IBPort) (nonempty : ports ≠ []) :
    ports.length + 5 ≤ (List.intercalate [','] (ports.map marshalIBPort)).length ∧
      ∃ tail, List.intercalate [','] (ports.map marshalIBPort) = '\x7b' :: tail := by
  induction ports with
  | nil => contradiction
  | cons p ps ih =>
    obtain ⟨tail, start⟩ := marshalIBPort_start p
    have long := marshalIBPort_length p
    cases ps with
    | nil => simpa [List.intercalate, start] using long
    | cons q qs =>
      simp only [List.map_cons, intercalate_comma_cons]
      refine ⟨?_, _, by rw [start, List.cons_append]⟩
      have := (ih (by simp)).1
      simp only [List.map_cons, List.length_append, List.length_cons] at this ⊢
      omega

theorem value_array (n : Nat) (text : List Char) :
    value (n + 1) ('[' :: '\x7b' :: text) =
      (elements (value n) n ('\x7b' :: text)).map fun p => (.array p.1, p.2) := rfl

theorem parseJson_marshalIBPorts (ports : List IBPort) (zeroRates : ∀ p ∈ ports, p.rate = 0)
    (nonempty : ports ≠ []) :
    parseJson (marshalIBPorts ports).data = some (.array (ports.map ibPortJson)) := by
  obtain ⟨long, tail, start⟩ := marshalIBPorts_start ports nonempty
  have body := elements_marshal ports zeroRates nonempty (m := tail.length + 3) (k := tail.length + 3)
    (by simp [start] at long; omega) (by simp [start] at long; omega) []
  have text : (marshalIBPorts ports).data = '[' :: '\x7b' :: (tail ++ [']']) := by
    simp [marshalIBPorts, start]
  unfold parseJson
  rw [text, show ('[' :: '\x7b' :: (tail ++ [']'])).length + 1 = tail.length + 3 + 1 by simp,
    value_array, ← List.cons_append, ← start, body]
  rfl

theorem unmarshalIBPort_ibPortJson (p : IBPort) (zeroRate : p.rate = 0) :
    unmarshalIBPort (ibPortJson p) = some p := by
  obtain ⟨device, state, physicalState, rate⟩ := p
  subst zeroRate
  rfl

theorem unmarshal_marshalIBPorts (ports : List IBPort) (zeroRates : ∀ p ∈ ports, p.rate = 0) :
    unmarshal (marshalIBPorts ports) = some ports := by
  rcases eq_or_ne ports [] with empty | nonempty
  · subst empty; rfl
  · simp only [unmarshal, parseJson_marshalIBPorts ports zeroRates nonempty, Option.bind_eq_bind,
      Option.some_bind, unmarshalIBPorts]
    clear nonempty
    induction ports with
    | nil => rfl
    | cons p ps ih =>
      rw [List.map_cons, List.mapM_cons, unmarshalIBPort_ibPortJson p (zeroRates p (by simp)),
        ih (fun r hr => zeroRates r (by simp [hr]))]
      rfl

end Infiniband
