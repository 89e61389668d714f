import UpperEcho.Proofs.AddressText
import UpperEcho.Endpoint

/-! Endpoint texts: the refusal an IPv6 endpoint text gets, and rendered endpoints reading back to
themselves. -/
namespace UpperEcho.Endpoint

open Net

/-! ### Splitting at the first bracket -/

theorem splitBracket_none {cs : List Char} : splitBracket cs = none ↔ ']' ∉ cs := by
  induction cs with
  | nil => simp [splitBracket]
  | cons c cs ih =>
    by_cases close : c = ']'
    · subst close
      simp [splitBracket]
    · simp [splitBracket, ih, Ne.symm close]

theorem splitBracket_some {cs a b : List Char} :
    splitBracket cs = some (a, b) ↔ cs = a ++ ']' :: b ∧ ']' ∉ a := by
  induction cs generalizing a with
  | nil => simp [splitBracket]
  | cons c cs ih =>
    by_cases close : c = ']'
    · -- the first bracket ends an empty address text
      subst close
      cases a with
      | nil => simp [splitBracket]
      | cons x a =>
        simp only [splitBracket, Option.some.injEq, Prod.mk.injEq, reduceCtorEq, false_and, false_iff]
        rintro ⟨eq, outside⟩
        simp only [List.cons_append, List.cons.injEq] at eq
        exact outside (eq.1 ▸ List.mem_cons_self)
    · cases a with
      | nil => simp [splitBracket, close]
      | cons x a =>
        rw [splitBracket.eq_3 _ _ close, Option.map_eq_some_iff]
        constructor
        · rintro ⟨⟨a', b'⟩, split, same⟩
          simp only [Prod.mk.injEq, List.cons.injEq] at same
          obtain ⟨⟨rfl, rfl⟩, rfl⟩ := same
          obtain ⟨rfl, outside⟩ := ih.1 split
          exact ⟨rfl, by simp [outside, Ne.symm close]⟩
        · rintro ⟨eq, outside⟩
          simp only [List.cons_append, List.cons.injEq] at eq
          obtain ⟨rfl, rfl⟩ := eq
          exact ⟨(a, b), ih.2 ⟨rfl, fun mem => outside (List.mem_cons_of_mem _ mem)⟩, rfl⟩

/-! ### Address text and port -/

inductive Inet6Layout : String → UInt16 → String → UInt16 → Prop
  | bare {s : String} {d : UInt16} (open_ : s.toList.head? ≠ some '[') : Inet6Layout s d s d
  | bracketed {A : String} {d : UInt16} (closed : ']' ∉ A.toList) : Inet6Layout ("[" ++ A ++ "]") d A d
  | withPort {A P : String} {d p : UInt16} (closed : ']' ∉ A.toList) (port : PortText P p) :
      Inet6Layout ("[" ++ A ++ "]:" ++ P) d A p

theorem addressAndPort_bare {s : String} {d : UInt16} (open_ : s.toList.head? ≠ some '[') :
    addressAndPort s d = .ok (s, d) := by
  unfold addressAndPort
  split
  · rename_i rest bracket
    simp [bracket] at open_
  · rfl

theorem addressAndPort_of_layout {s A : String} {d p : UInt16} (h : Inet6Layout s d A p) :
    addressAndPort s d = .ok (A, p) := by
  cases h with
  | bare open_ => exact addressAndPort_bare open_
  | @bracketed A d closed =>
    have split : splitBracket (A.toList ++ [']']) = some (A.toList, []) := splitBracket_some.2 ⟨rfl, closed⟩
    simp [addressAndPort, split]
  | @withPort A P d p closed port =>
    have split : splitBracket (A.toList ++ ']' :: ':' :: P.toList) = some (A.toList, ':' :: P.toList) :=
      splitBracket_some.2 ⟨rfl, closed⟩
    have parsed := (parsePort_eq_some_iff P p).2 port
    simp [addressAndPort, split, parsed]

theorem layout_of_addressAndPort {s A : String} {d p : UInt16} (h : addressAndPort s d = .ok (A, p)) :
    Inet6Layout s d A p := by
  unfold addressAndPort at h
  split at h
  · rename_i rest bracket
    split at h
    · simp at h
    · rename_i addr split
      simp only [Except.ok.injEq, Prod.mk.injEq] at h
      obtain ⟨rfl, rfl⟩ := h
      obtain ⟨eq, closed⟩ := splitBracket_some.1 split
      have text : s = "[" ++ String.ofList addr ++ "]" := by
        rw [← String.toList_inj]
        simp [bracket, eq]
      rw [text]
      exact .bracketed (by simpa using closed)
    · rename_i addr port split
      obtain ⟨eq, closed⟩ := splitBracket_some.1 split
      have text : s = "[" ++ String.ofList addr ++ "]:" ++ String.ofList port := by
        rw [← String.toList_inj]
        simp [bracket, eq]
      split at h
      · rename_i q parsed
        simp only [Except.ok.injEq, Prod.mk.injEq] at h
        obtain ⟨rfl, rfl⟩ := h
        rw [text]
        exact .withPort (by simpa using closed) ((parsePort_eq_some_iff _ _).1 parsed)
      · simp at h
    · simp at h
  · rename_i notBracket
    simp only [Except.ok.injEq, Prod.mk.injEq] at h
    obtain ⟨same, rfl⟩ := h
    subst same
    refine .bare fun head => ?_
    obtain ⟨rest, text⟩ : ∃ rest, s.toList = '[' :: rest := by
      cases eq : s.toList with
      | nil => simp [eq] at head
      | cons c rest => simp [eq] at head; exact ⟨rest, by rw [head]⟩
    exact notBracket rest text

theorem addressAndPort_ok {s A : String} {d p : UInt16} :
    addressAndPort s d = .ok (A, p) ↔ Inet6Layout s d A p :=
  ⟨layout_of_addressAndPort, addressAndPort_of_layout⟩

/-! ### IPv6 endpoints -/

theorem ofInet6Text_of_problem {s : String} {d : UInt16} {q : Problem} (h : addressAndPort s d = .error q) :
    ofInet6Text s d = .error (.endpoint s q.text) := by
  unfold ofInet6Text
  rw [h]
  rfl

theorem address_short {A : String} {a : Ipv6Addr} (h : Ipv6Addr.parse? A = some a) :
    A.utf8ByteSize < addressLimit := by
  have := (Ipv6Addr.parse_text h).1
  unfold addressLimit
  omega

theorem ofInet6Text_ok_iff {s : String} {d : UInt16} {e : Endpoint} :
    ofInet6Text s d = .ok e ↔ ∃ A a p, Inet6Layout s d A p ∧ Ipv6Addr.parse? A = some a ∧ e = .inet6 a p := by
  constructor
  · intro h
    unfold ofInet6Text at h
    split at h
    · simp at h
    · rename_i A p split
      split at h
      · simp at h
      · split at h
        · rename_i a parsed
          simp only [Except.ok.injEq] at h
          exact ⟨A, a, p, addressAndPort_ok.1 split, parsed, h.symm⟩
        · simp at h
  · rintro ⟨A, a, p, layout, parsed, rfl⟩
    simp [ofInet6Text, addressAndPort_of_layout layout, parsed, not_le.2 (address_short parsed)]

theorem ofInet6Text_missingBracket {s : String} {d : UInt16} (open_ : s.toList.head? = some '[')
    (unclosed : ']' ∉ s.toList) : ofInet6Text s d = .error (.endpoint s "missing ']'") := by
  obtain ⟨rest, text⟩ : ∃ rest, s.toList = '[' :: rest := by
    cases eq : s.toList with
    | nil => simp [eq] at open_
    | cons c rest => simp [eq] at open_; exact ⟨rest, by rw [open_]⟩
  have none : splitBracket rest = none := splitBracket_none.2 fun mem => unclosed (by simp [text, mem])
  have problem : addressAndPort s d = .error .missingBracket := by
    unfold addressAndPort
    rw [text]
    simp only [none]
  exact ofInet6Text_of_problem problem

theorem ofInet6Text_invalidPort {s A T : String} {d : UInt16} (text : s = "[" ++ A ++ "]" ++ T)
    (closed : ']' ∉ A.toList) (trailing : T ≠ "") (bad : ∀ P p, T = ":" ++ P → ¬PortText P p) :
    ofInet6Text s d = .error (.endpoint s "invalid port") := by
  have split : splitBracket (A.toList ++ ']' :: T.toList) = some (A.toList, T.toList) :=
    splitBracket_some.2 ⟨rfl, closed⟩
  have problem : addressAndPort s d = .error .invalidPort := by
    have chars : s.toList = '[' :: (A.toList ++ ']' :: T.toList) := by
      rw [text]
      simp
    unfold addressAndPort
    rw [chars]
    simp only [split]
    split
    · rename_i same
      simp at same
    · rename_i addr same
      simp only [Option.some.injEq, Prod.mk.injEq, String.toList_eq_nil_iff] at same
      exact absurd same.2 trailing
    · rename_i addr port same
      simp only [Option.some.injEq, Prod.mk.injEq] at same
      -- a colon after the bracket, then no port
      split
      · rename_i p parsed
        refine absurd ((parsePort_eq_some_iff _ _).1 parsed) (bad _ p ?_)
        rw [← String.toList_inj]
        simp [same.2]
      · rfl
    · rfl
  exact ofInet6Text_of_problem problem

theorem ofInet6Text_tooLong {s A : String} {d p : UInt16} (layout : Inet6Layout s d A p)
    (long : 46 ≤ A.utf8ByteSize) : ofInet6Text s d = .error (.endpoint s "address too long") := by
  unfold ofInet6Text
  rw [addressAndPort_of_layout layout]
  dsimp only
  rw [if_pos (show addressLimit ≤ A.utf8ByteSize from long)]
  rfl

theorem ofInet6Text_notAddress {s A : String} {d p : UInt16} (layout : Inet6Layout s d A p)
    (short : A.utf8ByteSize < 46) (bad : Ipv6Addr.parse? A = none) :
    ofInet6Text s d = .error (.endpoint s "not an IPv6 address") := by
  have fits : ¬addressLimit ≤ A.utf8ByteSize := by unfold addressLimit; omega
  unfold ofInet6Text
  rw [addressAndPort_of_layout layout]
  dsimp only
  rw [if_neg fits, bad]
  rfl

/-! ### Paths and the dispatch -/

theorem ofPath_ok_iff {path : String} {e : Endpoint} :
    ofPath path = .ok e ↔ e = .unix path ∧ 0 < path.utf8ByteSize ∧ path.utf8ByteSize ≤ 107 := by
  unfold ofPath pathLimit
  by_cases empty : path.utf8ByteSize = 0
  · simp [empty]
  · by_cases long : 108 ≤ path.utf8ByteSize
    · simp [empty, long]
      omega
    · simp [empty, long, eq_comm]
      omega

theorem ne_empty_of_startsWith {s : String} (h : s.startsWith "/" ∨ s.startsWith ".") : s ≠ "" := by
  rintro rfl
  simp at h

theorem parse_of_path {s : String} (h : s.startsWith "/" ∨ s.startsWith ".") : parse s = ofPath s := by
  have nonempty := ne_empty_of_startsWith h
  unfold parse
  rw [if_neg (by simpa [String.isEmpty_iff] using nonempty), if_pos h]

theorem parse_of_inet6 {s : String} (nonempty : s ≠ "") (h : ¬(s.startsWith "/" ∨ s.startsWith ".")) :
    parse s = ofInet6Text s defaultPort := by
  unfold parse
  rw [if_neg (by simpa [String.isEmpty_iff] using nonempty), if_neg h]

/-! ### The grammar -/

theorem endpointTextGrammar (s : String) (d : UInt16) :
    (∀ e, ofInet6Text s d = .ok e ↔
      ∃ A a p, Inet6Layout s d A p ∧ Ipv6Addr.parse? A = some a ∧ e = .inet6 a p) ∧
    (s.toList.head? = some '[' → ']' ∉ s.toList →
      ofInet6Text s d = .error (.endpoint s "missing ']'")) ∧
    (∀ A T, s = "[" ++ A ++ "]" ++ T → ']' ∉ A.toList → T ≠ "" → (∀ P p, T = ":" ++ P → ¬PortText P p) →
      ofInet6Text s d = .error (.endpoint s "invalid port")) ∧
    (∀ A p, Inet6Layout s d A p → 46 ≤ A.utf8ByteSize →
      ofInet6Text s d = .error (.endpoint s "address too long")) ∧
    (∀ A p, Inet6Layout s d A p → A.utf8ByteSize < 46 → Ipv6Addr.parse? A = none →
      ofInet6Text s d = .error (.endpoint s "not an IPv6 address")) ∧
    (∀ A a, Ipv6Addr.parse? A = some a → A.utf8ByteSize < 46) ∧
    (∀ e, ofPath s = .ok e ↔ e = .unix s ∧ 0 < s.utf8ByteSize ∧ s.utf8ByteSize ≤ 107) ∧
    parse "" = .error (.endpoint "" "empty endpoint") ∧
    (s.startsWith "/" ∨ s.startsWith "." → parse s = ofPath s) ∧
    (s ≠ "" → ¬(s.startsWith "/" ∨ s.startsWith ".") → parse s = ofInet6Text s defaultPort) :=
  ⟨fun _ => ofInet6Text_ok_iff, ofInet6Text_missingBracket,
    fun _ _ text closed trailing bad => ofInet6Text_invalidPort text closed trailing bad,
    fun _ _ layout long => ofInet6Text_tooLong layout long,
    fun _ _ layout short bad => ofInet6Text_notAddress layout short bad,
    fun _ _ parsed => address_short parsed, fun _ => ofPath_ok_iff, rfl, parse_of_path, parse_of_inet6⟩

/-! ### Printing and reading back -/

def Readable : Endpoint → Prop
  | .unix path => (path.startsWith "/" ∨ path.startsWith ".") ∧ path.utf8ByteSize ≤ 107
  | .inet6 _ _ => True

instance : DecidablePred Readable := fun e => by
  cases e <;> unfold Readable <;> infer_instance

example : Readable (.unix "/run/ucase.sock") := by cbv

theorem parse_render_inet6 (a : Ipv6Addr) (port : UInt16) :
    parse (inet6 a port).render = .ok (inet6 a port) := by
  have closed : ']' ∉ a.render.toList := fun mem => by
    rcases (Ipv6Addr.parse_text (Ipv6Addr.parse_render a)).2 _ mem with digit | colon | dot
    · simp [digitValue] at digit
    · exact absurd colon (by decide)
    · exact absurd dot (by decide)
  have layout := Inet6Layout.withPort (d := defaultPort) closed (portText_toString port)
  have text : (inet6 a port).render.toList = '[' :: (a.render.toList ++ ']' :: ':' :: (toString port.toNat).toList) := by
    simp [render]
  have nonempty : (inet6 a port).render ≠ "" := by
    rw [ne_eq, ← String.toList_inj, text]
    simp
  have notPath : ¬((inet6 a port).render.startsWith "/" ∨ (inet6 a port).render.startsWith ".") := by
    simp [String.startsWith_string_iff, text, List.cons_prefix_cons]
  rw [parse_of_inet6 nonempty notPath]
  exact ofInet6Text_ok_iff.2 ⟨_, a, port, layout, Ipv6Addr.parse_render a, rfl⟩

theorem parse_unix {path s : String} (h : parse s = .ok (unix path)) : s = path ∧ Readable (unix path) := by
  unfold parse at h
  split at h
  · simp at h
  · split at h
    · rename_i start
      obtain ⟨same, nonempty, short⟩ := ofPath_ok_iff.1 h
      simp only [unix.injEq] at same
      subst same
      exact ⟨rfl, start, short⟩
    · obtain ⟨_, _, _, _, _, wrong⟩ := ofInet6Text_ok_iff.1 h
      simp at wrong

theorem parse_render_roundTrip (e : Endpoint) :
    ((∃ s, parse s = .ok e) ↔ e.Readable) ∧ (e.Readable → parse e.render = .ok e) := by
  have back : e.Readable → parse e.render = .ok e := by
    intro readable
    cases e with
    | unix path =>
      obtain ⟨start, short⟩ := readable
      have nonempty : 0 < path.utf8ByteSize := by
        simpa [Nat.pos_iff_ne_zero, String.utf8ByteSize_eq_zero_iff] using ne_empty_of_startsWith start
      rw [show (unix path).render = path from rfl, parse_of_path start]
      exact ofPath_ok_iff.2 ⟨rfl, nonempty, short⟩
    | inet6 a port => exact parse_render_inet6 a port
  refine ⟨⟨?_, fun readable => ⟨e.render, back readable⟩⟩, back⟩
  rintro ⟨s, parsed⟩
  cases e with
  | unix path => exact (parse_unix parsed).2
  | inet6 a port => trivial

end UpperEcho.Endpoint
