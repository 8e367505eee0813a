import Mathlib.Data.List.Basic

/-! The two functions of Go's standard library that the service map's addresses pass
through: strconv.Itoa, which writes the port, and net.SplitHostPort, which a reader of an
address uses to take it apart. Both work on bytes; every position they split at holds an
ASCII byte (`:`, `[`, `]`), so splitting the characters at the same places gives the same
pieces.
-/

namespace Ravel.Go

/-- strconv.Itoa: the decimal form of `n`, with a leading `-` when negative. -/
def itoa (n : Int) : String := toString n

/-- bytealg.IndexByteString: the position of the first `c`, none for Go's -1. -/
def indexByte : List Char → Char → Option Nat
  | [], _ => none
  | x :: rest, c => if x = c then some 0 else (indexByte rest c).map (· + 1)

/-- bytealg.LastIndexByteString: the position of the last `c`, none for Go's -1. -/
def lastIndexByte : List Char → Char → Option Nat
  | [], _ => none
  | x :: rest, c =>
      match lastIndexByte rest c with
      | some i => some (i + 1)
      | none => if x = c then some 0 else none

/-- The bracket branch and the plain branch of SplitHostPort up to the port: the host, and
the positions `j` and `k` from which no `[` resp. `]` may follow. `i` is the last colon.
-/
def hostBounds (s : List Char) (i : Nat) : Except String (String × Nat × Nat) :=
  if s.head? = some '[' then
    match indexByte s ']' with
    | none => .error "missing \x27]\x27 in address"
    | some e =>
        if e + 1 = s.length then .error "missing port in address"
        else if e + 1 = i then .ok (⟨(s.take e).drop 1⟩, 1, e + 1)
        else if s[e + 1]? = some ':' then .error "too many colons in address"
        else .error "missing port in address"
  else
    let host := s.take i
    if (indexByte host ':').isSome then .error "too many colons in address"
    else .ok (⟨host⟩, 0, 0)

/-- net.SplitHostPort: the host and the port of `host:port`, `[host]:port` or
`[host%zone]:port`; an error is the `Err` text of the AddrError it returns.
-/
def splitHostPort (hostport : String) : Except String (String × String) :=
  let s := hostport.data
  match lastIndexByte s ':' with
  | none => .error "missing port in address"
  | some i =>
      (hostBounds s i).bind fun (host, j, k) =>
        if (indexByte (s.drop j) '[').isSome then .error "unexpected \x27[\x27 in address"
        else if (indexByte (s.drop k) ']').isSome then .error "unexpected \x27]\x27 in address"
        else .ok (host, ⟨s.drop (i + 1)⟩)

-----------------------------------------------------------------------------------------
-- Searching for a byte
-----------------------------------------------------------------------------------------

section Search

variable {s rest : List Char} {c x : Char}

@[simp] theorem indexByte_isSome : (indexByte s c).isSome ↔ c ∈ s := by
  induction s with
  | nil => simp [indexByte]
  | cons x rest ih =>
      by_cases hx : x = c
      · simp [indexByte, hx]
      · simp [indexByte, hx, ih, Ne.symm hx]

/-- The first `c` stands at the returned position, and none before it, by induction on the
list.
-/
theorem indexByte_eq_some {e : Nat} (h : indexByte s c = some e)
    : s[e]? = some c ∧ c ∉ s.take e := by
  induction s generalizing e with
  | nil => cases h
  | cons x rest ih =>
      unfold indexByte at h
      split at h
      · cases h
        simp_all
      · obtain ⟨e, he, rfl⟩ := Option.map_eq_some'.mp h
        obtain ⟨hat, hbefore⟩ := ih he
        simp_all [Ne.symm]

/-- With no `c` after it, the `c` between two parts is the last one, by induction on the
first part.
-/
theorem lastIndexByte_append_cons (first : List Char) (hrest : c ∉ rest)
    : lastIndexByte (first ++ c :: rest) c = some first.length := by
  induction first with
  | nil =>
      have : lastIndexByte rest c = none := by
        induction rest with
        | nil => rfl
        | cons y ys ih =>
            simp only [List.mem_cons, not_or] at hrest
            simp [lastIndexByte, ih hrest.2, Ne.symm hrest.1]
      simp [lastIndexByte, this]
  | cons x xs ih => simp [lastIndexByte, ih]

end Search

-----------------------------------------------------------------------------------------
-- The digits of strconv.Itoa
-----------------------------------------------------------------------------------------

/-- Every character Nat.toDigitsCore adds in base ten is a digit, by induction on the fuel. -/
theorem mem_toDigitsCore {fuel n : Nat} {acc : List Char} {c : Char}
    (h : c ∈ Nat.toDigitsCore 10 fuel n acc) : c ∈ acc ∨ c.isDigit := by
  induction fuel generalizing n acc with
  | zero => exact .inl h
  | succ fuel ih =>
      have digit : (Nat.digitChar (n % 10)).isDigit := by
        have : n % 10 < 10 := Nat.mod_lt n (by decide)
        generalize n % 10 = d at this
        revert d
        decide
      change c ∈ if n / 10 = 0 then Nat.digitChar (n % 10) :: acc
        else Nat.toDigitsCore 10 fuel (n / 10) (Nat.digitChar (n % 10) :: acc) at h
      split at h
      · rcases List.mem_cons.mp h with rfl | h
        exacts [.inr digit, .inl h]
      · rcases ih h with h | h
        · rcases List.mem_cons.mp h with rfl | h
          exacts [.inr digit, .inl h]
        · exact .inr h

/-- strconv.Itoa writes digits and a sign only. -/
theorem mem_itoa {n : Int} {c : Char} (h : c ∈ (itoa n).data) : c = '-' ∨ c.isDigit := by
  have digits : ∀ m : Nat, c ∈ (toString m).data → c.isDigit := fun m hm =>
    (mem_toDigitsCore hm).resolve_left (List.not_mem_nil c)
  cases n with
  | ofNat m => exact .inr (digits m h)
  | negSucc m =>
      rcases List.mem_append.mp h with h | h
      · exact .inl (List.mem_singleton.mp h)
      · exact .inr (digits (m + 1) h)

/-- An Itoa port holds no colon and no bracket. -/
theorem itoa_plain (n : Int) : ∀ c ∈ (itoa n).data, c ≠ ':' ∧ c ≠ '[' ∧ c ≠ ']' := by
  intro c hc
  rcases mem_itoa hc with rfl | hdigit
  · decide
  · refine ⟨?_, ?_, ?_⟩ <;> rintro rfl <;> cases hdigit

-----------------------------------------------------------------------------------------
-- Splitting a joined address
-----------------------------------------------------------------------------------------

section Join

variable {host port : String}

theorem ok_bind {α β : Type} (a : α) (f : α → Except String β)
    : (Except.ok a : Except String α).bind f = f a := rfl

/-- The characters of a joined address. -/
theorem data_join : (host ++ ":" ++ port).data = host.data ++ ':' :: port.data := by
  simp only [String.data_append, List.append_assoc]
  rfl

/-- Joined at a colon the left parts do not hold, two strings are equal only part by part,
by induction on the first left part.
-/
theorem join_inj {host' port' : String} (hhost : ':' ∉ host.data) (hhost' : ':' ∉ host'.data)
    (h : host ++ ":" ++ port = host' ++ ":" ++ port') : host = host' ∧ port = port' := by
  have hdata := congrArg String.data h
  rw [data_join, data_join] at hdata
  suffices ∀ (first first' : List Char), ':' ∉ first → ':' ∉ first' →
      first ++ ':' :: port.data = first' ++ ':' :: port'.data → first = first' ∧ port = port' by
    obtain ⟨hfirst, rfl⟩ := this _ _ hhost hhost' hdata
    exact ⟨String.ext hfirst, rfl⟩
  intro first
  induction first with
  | nil =>
      rintro (_ | ⟨x, xs⟩) - hfirst' heq <;>
        simp only [List.nil_append, List.cons_append, List.cons.injEq] at heq
      · exact ⟨rfl, String.ext heq.2⟩
      · exact absurd (heq.1 ▸ List.mem_cons_self _ _) hfirst'
  | cons x xs ih =>
      rintro (_ | ⟨y, ys⟩) hfirst hfirst' heq <;>
        simp only [List.nil_append, List.cons_append, List.cons.injEq] at heq
      · exact absurd (heq.1 ▸ List.mem_cons_self _ _) hfirst
      · obtain ⟨rfl, heq⟩ := heq
        obtain ⟨rfl, hport⟩ := ih ys (fun h => hfirst (.tail _ h)) (fun h => hfirst' (.tail _ h)) heq
        exact ⟨rfl, hport⟩

/-- A successful SplitHostPort took its host from `hostBounds` at the last colon. -/
theorem splitHostPort_ok {hostport : String} {result : String × String}
    (h : splitHostPort hostport = .ok result)
    : ∃ i j k, lastIndexByte hostport.data ':' = some i
      ∧ hostBounds hostport.data i = .ok (result.1, j, k) := by
  dsimp only [splitHostPort] at h
  split at h
  · cases h
  rename_i i hi
  cases hb : hostBounds hostport.data i with
  | error => simp [hb, Except.bind] at h
  | ok bounds =>
      obtain ⟨host, j, k⟩ := bounds
      simp only [hb, Except.bind] at h
      split_ifs at h
      cases h
      exact ⟨i, j, k, hi, hb⟩

/-- In the bracket branch the host is two characters shorter than the part before the
last colon: the brackets are cut off.
-/
theorem hostBounds_bracket {s : List Char} {i j k : Nat} {host : String}
    (hhead : s.head? = some '[') (h : hostBounds s i = .ok (host, j, k))
    : host.data.length + 2 = i := by
  simp only [hostBounds, hhead, if_true] at h
  split at h
  · cases h
  rename_i e he
  obtain ⟨hat, -⟩ := indexByte_eq_some he
  have hlt := (List.getElem?_eq_some_iff.mp hat).1
  have hpos : e ≠ 0 := by
    rintro rfl
    cases s with
    | nil => cases hat
    | cons x xs =>
        simp only [List.head?_cons, Option.some.injEq, List.getElem?_cons_zero] at hhead hat
        exact absurd (hhead.symm.trans hat) (by decide)
  split_ifs at h with hend hi
  cases h
  simp only [List.length_drop, List.length_take]
  omega

/-- In the plain branch SplitHostPort checks the host for a colon and the whole address
for brackets.
-/
theorem splitHostPort_join_plain (hrest : ':' ∉ port.data)
    (hhead : (host.data ++ ':' :: port.data).head? ≠ some '[')
    : splitHostPort (host ++ ":" ++ port)
      = if ':' ∈ host.data then .error "too many colons in address"
        else if '[' ∈ host.data ++ ':' :: port.data then
          .error "unexpected \x27[\x27 in address"
        else if ']' ∈ host.data ++ ':' :: port.data then
          .error "unexpected \x27]\x27 in address"
        else .ok (host, port) := by
  have hdrop : (host.data ++ ':' :: port.data).drop (host.data.length + 1) = port.data := by
    rw [← List.singleton_append, ← List.append_assoc]
    exact List.drop_left' (by simp)
  simp only [splitHostPort, data_join, lastIndexByte_append_cons _ hrest, hostBounds, hhead,
    if_false, List.take_left, indexByte_isSome]
  by_cases hcolon : ':' ∈ host.data
  · simp only [hcolon, if_true]
    rfl
  · simp only [hcolon, if_false, ok_bind, List.drop_zero, hdrop]

/-- A port written without colons or brackets comes back from SplitHostPort with the host
it was joined to exactly when the host holds no colon and no bracket: a colon makes too
many colons, a `[` an error or a bracket host cut short, a `]` an error.
-/
theorem splitHostPort_join (hport : ∀ c ∈ port.data, c ≠ ':' ∧ c ≠ '[' ∧ c ≠ ']')
    : splitHostPort (host ++ ":" ++ port) = .ok (host, port)
      ↔ ':' ∉ host.data ∧ '[' ∉ host.data ∧ ']' ∉ host.data := by
  have hrest : ':' ∉ port.data := fun h => (hport _ h).1 rfl
  by_cases hhead : (host.data ++ ':' :: port.data).head? = some '['
  · have hopen : '[' ∈ host.data := by
      cases hd : host.data with
      | nil => simp [hd] at hhead
      | cons x xs => simp_all
    refine iff_of_false (fun h => ?_) (fun h => h.2.1 hopen)
    obtain ⟨i, j, k, hi, hb⟩ := splitHostPort_ok h
    rw [data_join, lastIndexByte_append_cons _ hrest] at hi
    rw [data_join] at hb
    have := hostBounds_bracket hhead hb
    dsimp only at this
    simp only [Option.some.injEq] at hi
    omega
  · have hopen' : '[' ∉ port.data := fun h => (hport _ h).2.1 rfl
    have hclose' : ']' ∉ port.data := fun h => (hport _ h).2.2 rfl
    have hmem : ∀ c, c ≠ ':' → c ∉ port.data → (c ∈ host.data ++ ':' :: port.data ↔ c ∈ host.data) :=
      fun c hc hp => by simp [hc, hp]
    rw [splitHostPort_join_plain hrest hhead]
    simp only [hmem '[' (by decide) hopen', hmem ']' (by decide) hclose']
    by_cases hcolon : ':' ∈ host.data <;> by_cases hopen : '[' ∈ host.data <;>
      by_cases hclose : ']' ∈ host.data <;> simp [hcolon, hopen, hclose]

/-- The form net.JoinHostPort writes for an IPv6 host, brackets around it, decodes. -/
example : splitHostPort "[fd00::1]:80" = .ok ("fd00::1", "80") := rfl

end Join

end Ravel.Go
