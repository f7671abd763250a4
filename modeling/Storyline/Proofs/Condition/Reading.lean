import Storyline.Proofs.Condition.Grammar
import Storyline.Proofs.Outcome

namespace Storyline.Condition

def lexemes (ts : List Token) : List Lexeme := ts.map Token.lexeme

def EndsOperand (ts : List Token) : Prop :=
  ∀ t ∈ ts.head?, t.lexeme ∉ [.symbol .dot, .symbol .openBracket, .symbol .openParen]

def EndsExpression (ts : List Token) : Prop :=
  EndsOperand ts ∧ ∀ t ∈ ts.head?, operatorOf? t.lexeme = none

variable {endAt depth level : Nat} {e first : Expression} {tail : Tail} {ls rs : List Lexeme}

def ReadsPrimary (endAt depth : Nat) (e : Expression) (ls : List Lexeme) : Prop :=
  ∀ fuel ts rest, 4 * ls.length ≤ fuel + 2 → lexemes ts = ls →
    parsePrimary endAt fuel depth (ts ++ rest) = .ok (e, rest)

/-- What is read from the first part of the phrase is what is read from all of it, unless a call
follows. -/
def ReadsAccess (endAt depth : Nat) (e : Expression) (ls : List Lexeme) : Prop :=
  ∀ fuel ts rest, 4 * ls.length ≤ fuel + 1 → lexemes ts = ls →
    (∀ t ∈ rest.head?, t.lexeme ≠ .symbol .openParen) → ∃ k < ls.length,
      (do
        let (primary, rest) ← parsePrimary endAt fuel depth (ts ++ rest)
        parseAccess endAt fuel depth primary rest) = parseAccess endAt (fuel - k) depth e rest

def ReadsOperand (endAt depth : Nat) (e : Expression) (ls : List Lexeme) : Prop :=
  ls ≠ [] ∧ ∀ fuel ts rest, 4 * ls.length ≤ fuel → lexemes ts = ls → EndsOperand rest →
    parseOperand endAt fuel depth (ts ++ rest) = .ok (e, rest)

def ReadsExpression (endAt depth : Nat) (e : Expression) (ls : List Lexeme) : Prop :=
  ∀ fuel ts rest, 4 * ls.length + 1 ≤ fuel → lexemes ts = ls → EndsExpression rest →
    parseExpression endAt fuel depth (ts ++ rest) = .ok (e, rest)

def ReadsChain (endAt depth level : Nat) (e : Expression) (ls : List Lexeme) : Prop :=
  ∃ first tail ls₀ rs, ls = ls₀ ++ rs ∧ ReadsOperand endAt depth first ls₀ ∧
    Tailed (ReadsOperand endAt depth) tail rs ∧
    groupTightest (signLevel - level) (first, tail) = (e, [])

theorem lexemes_eq_append {ts : List Token} (h : lexemes ts = ls ++ rs) :
    ∃ ts₁ ts₂, ts = ts₁ ++ ts₂ ∧ lexemes ts₁ = ls ∧ lexemes ts₂ = rs :=
  List.map_eq_append_iff.mp h

theorem lexemes_eq_cons {ts : List Token} {l : Lexeme} (h : lexemes ts = l :: ls) :
    ∃ position ts', ts = ⟨l, position⟩ :: ts' ∧ lexemes ts' = ls := by
  obtain ⟨t, ts', rfl, rfl, rfl⟩ := List.map_eq_cons_iff.mp h
  exact ⟨t.position, ts', rfl, rfl⟩

theorem lexemes_eq_nil {ts : List Token} (h : lexemes ts = []) : ts = [] := List.map_eq_nil_iff.mp h

theorem length_lexemes (ts : List Token) : (lexemes ts).length = ts.length := List.length_map _

/-- Behind an operand of a chain stands an operator, or what stands behind the chain. -/
theorem Tailed.endsOperand {R : Expression → List Lexeme → Prop} {ts rest : List Token}
    (h : Tailed R tail rs) (hts : lexemes ts = rs) (hr : EndsOperand rest) :
    EndsOperand (ts ++ rest) := by
  cases h with
  | nil =>
    rw [lexemes_eq_nil hts]
    exact hr
  | @cons o _ _ _ _ _ _ =>
    obtain ⟨p, ts', rfl, _⟩ := lexemes_eq_cons hts
    rintro t ⟨⟩
    simp

theorem parseTail_tailed (h : Tailed (ReadsOperand endAt depth) tail rs) {fuel : Nat}
    {ts rest : List Token} (hfuel : 4 * rs.length + 1 ≤ fuel) (hts : lexemes ts = rs)
    (hr : EndsExpression rest) :
    parseTail endAt fuel depth (ts ++ rest) = .ok (tail, rest) := by
  induction h generalizing fuel ts with
  | nil =>
    obtain ⟨fuel, rfl⟩ := Nat.exists_eq_succ_of_ne_zero (Nat.ne_of_gt hfuel)
    rw [lexemes_eq_nil hts]
    cases rest with
    | nil => simp [parseTail]
    | cons t rest => simp [parseTail, hr.2 t rfl]
  | @cons o e tail es rs he ht ih =>
    obtain ⟨fuel, rfl⟩ : ∃ k, fuel = k + 1 := Nat.exists_eq_succ_of_ne_zero (by omega)
    rw [List.length_cons, List.length_append] at hfuel
    obtain ⟨p, ts', rfl, hts'⟩ := lexemes_eq_cons hts
    obtain ⟨ts₁, ts₂, rfl, h₁, h₂⟩ := lexemes_eq_append hts'
    have hoperand := he.2 fuel ts₁ (ts₂ ++ rest) (by omega) h₁ (ht.endsOperand h₂ hr.1)
    have htail : parseTail endAt fuel depth (ts₂ ++ rest) = .ok (tail, rest) := ih (by omega) h₂
    rw [List.cons_append, List.append_assoc, parseTail]
    simp only [operatorOf?, hoperand, htail, ok_bind, pure_ok]

/-- A chain that makes up a whole expression is read as one. -/
theorem ReadsChain.expression (h : ReadsChain endAt depth 0 e ls) :
    ReadsExpression endAt depth e ls := by
  obtain ⟨first, tail, ls₀, rs, rfl, hf, ht, hg⟩ := h
  intro fuel ts rest hfuel hts hr
  obtain ⟨fuel, rfl⟩ : ∃ k, fuel = k + 1 := Nat.exists_eq_succ_of_ne_zero (by omega)
  obtain ⟨ts₀, ts₁, rfl, h₀, h₁⟩ := lexemes_eq_append hts
  have hpos := List.length_pos_iff.mpr hf.1
  rw [List.length_append] at hfuel
  have hoperand := hf.2 fuel ts₀ (ts₁ ++ rest) (by omega) h₀ (ht.endsOperand h₁ hr.1)
  have htail : parseTail endAt fuel depth (ts₁ ++ rest) = .ok (tail, rest) :=
    parseTail_tailed ht (by omega) h₁ hr
  have hgroup : group first tail = e := by
    rw [group_eq]
    exact congrArg Prod.fst hg
  rw [List.append_assoc, parseExpression]
  simp only [hoperand, htail, hgroup, ok_bind, pure_ok]

theorem ReadsPrimary.access (h : ReadsPrimary endAt depth e ls) (hne : ls ≠ []) :
    ReadsAccess endAt depth e ls := by
  intro fuel ts rest hfuel hts _
  have hp := h fuel ts rest (by omega) hts
  exact ⟨0, List.length_pos_iff.mpr hne, by simp [hp]⟩

theorem parseAccess_end {fuel : Nat} {rest : List Token} (hr : EndsOperand rest) :
    parseAccess endAt (fuel + 1) depth e rest = .ok (e, rest) := by
  unfold parseAccess
  split
  · exact absurd (hr _ rfl) (by simp)
  · exact absurd (hr _ rfl) (by simp)
  · exact absurd (hr _ rfl) (by simp)
  · rfl

/-- Without a sign in front, an access is an operand. -/
theorem ReadsAccess.operand (h : ReadsAccess endAt depth e ls)
    (hs : ∃ l more, ls = l :: more ∧ signOf? l = none) : ReadsOperand endAt depth e ls := by
  obtain ⟨l, more, rfl, hs⟩ := hs
  refine ⟨by simp, ?_⟩
  intro fuel ts rest hfuel hts hr
  rw [List.length_cons] at hfuel
  obtain ⟨fuel, rfl⟩ : ∃ k, fuel = k + 1 := Nat.exists_eq_succ_of_ne_zero (by omega)
  have hcall : ∀ t ∈ rest.head?, t.lexeme ≠ .symbol .openParen := by
    intro t ht heq
    exact hr t ht (by simp [heq])
  obtain ⟨k, hk, hread⟩ := h fuel ts rest (by rw [List.length_cons]; omega) hts hcall
  rw [List.length_cons] at hk
  obtain ⟨p, ts', rfl, _⟩ := lexemes_eq_cons hts
  obtain ⟨left, hleft⟩ : ∃ n, fuel - k = n + 1 := Nat.exists_eq_succ_of_ne_zero (by omega)
  have hend : parseAccess endAt (left + 1) depth e rest = .ok (e, rest) := parseAccess_end hr
  rw [List.cons_append, parseOperand]
  simp only [hs]
  rw [← List.cons_append, hread, hleft, hend]

theorem ReadsOperand.chain (h : ReadsOperand endAt depth e ls) :
    ReadsChain endAt depth signLevel e ls :=
  ⟨e, [], ls, [], by simp, h, .nil, rfl⟩

/-- Where no operator is grouped, a chain is an operand. -/
theorem ReadsChain.operand (h : ReadsChain endAt depth signLevel e ls) :
    ReadsOperand endAt depth e ls := by
  obtain ⟨first, tail, ls₀, rs, rfl, hf, ht, hg⟩ := h
  rw [Nat.sub_self] at hg
  cases hg
  cases ht
  rw [List.append_nil]
  exact hf

/-- A chain of a level is one of the next lower level too. -/
theorem ReadsChain.tighter (h : ReadsChain endAt depth (level + 1) e ls) (hl : level < signLevel) :
    ReadsChain endAt depth level e ls := by
  obtain ⟨first, tail, ls₀, rs, hls, hf, ht, hg⟩ := h
  have hn : signLevel - level = (signLevel - (level + 1)) + 1 := by omega
  exact ⟨first, tail, ls₀, rs, hls, hf, ht, by rw [hn, groupTightest, hg]; rfl⟩

theorem ReadsChain.binary {o : Operator} {a b : Expression}
    (ha : ReadsChain endAt depth o.level a ls) (hb : ReadsChain endAt depth (o.level + 1) b rs) :
    ReadsChain endAt depth o.level (.binary o a b) (ls ++ .symbol (.operator o) :: rs) := by
  obtain ⟨first, tail, ls₀, ls₁, rfl, hf, ht, hg⟩ := ha
  obtain ⟨first', tail', rs₀, rs₁, rfl, hf', ht', hg'⟩ := hb
  refine ⟨first, tail ++ (o, first') :: tail', ls₀, ls₁ ++ .symbol (.operator o) :: (rs₀ ++ rs₁),
    by simp, hf, ht.append (.cons hf' ht'), ?_⟩
  have hlt := o.level_lt
  have hn : signLevel - o.level = (signLevel - (o.level + 1)) + 1 := by omega
  have hlevel : 5 - (signLevel - (o.level + 1)) = o.level := by
    unfold signLevel at hlt ⊢
    omega
  rw [hn, groupTightest, hlevel] at hg
  rw [hn, groupTightest, hlevel, groupTightest_append (by omega), hg']
  exact groupLevel_snoc hg

theorem ReadsOperand.sign (s : Sign) (h : ReadsOperand endAt depth e ls) :
    ReadsOperand endAt (depth + 1) (.sign s e) (.symbol s.symbol :: ls) := by
  refine ⟨by simp, ?_⟩
  intro fuel ts rest hfuel hts hr
  rw [List.length_cons] at hfuel
  obtain ⟨fuel, rfl⟩ : ∃ k, fuel = k + 1 := Nat.exists_eq_succ_of_ne_zero (by omega)
  obtain ⟨p, ts', rfl, hts'⟩ := lexemes_eq_cons hts
  have hread := h.2 fuel ts' rest (by omega) hts' hr
  have hsign : signOf? (.symbol s.symbol) = some s := by cases s <;> rfl
  rw [List.cons_append, parseOperand]
  simp only [hsign, Nat.add_sub_cancel, hread]
  rfl

theorem ReadsPrimary.literal (l : Literal) :
    ReadsPrimary endAt depth (.literal l) [l.lexeme] := by
  intro fuel ts rest hfuel hts
  obtain ⟨fuel, rfl⟩ : ∃ k, fuel = k + 1 :=
    Nat.exists_eq_succ_of_ne_zero (by rw [List.length_singleton] at hfuel; omega)
  obtain ⟨p, ts', rfl, hts'⟩ := lexemes_eq_cons hts
  rw [lexemes_eq_nil hts']
  rcases l with _ | _ | (_ | _) | _ | _ <;>
    simp [Literal.lexeme, parsePrimary, ofName, literalName?]

theorem ReadsPrimary.name {s : String} (hs : literalName? s = none) :
    ReadsPrimary endAt depth (.name s) [.name s] := by
  intro fuel ts rest hfuel hts
  obtain ⟨fuel, rfl⟩ : ∃ k, fuel = k + 1 :=
    Nat.exists_eq_succ_of_ne_zero (by rw [List.length_singleton] at hfuel; omega)
  obtain ⟨p, ts', rfl, hts'⟩ := lexemes_eq_cons hts
  rw [lexemes_eq_nil hts']
  simp [parsePrimary, ofName, hs]

theorem endsExpression_symbol {s : Symbol} {position : Nat} {rest : List Token}
    (h : s = .closeParen ∨ s = .closeBracket ∨ s = .comma) :
    EndsExpression (⟨.symbol s, position⟩ :: rest) := by
  constructor
  · rintro t ⟨⟩
    rcases h with rfl | rfl | rfl <;> simp
  · rintro t ⟨⟩
    rcases h with rfl | rfl | rfl <;> rfl

theorem ReadsExpression.grouped (h : ReadsExpression endAt depth e ls) :
    ReadsPrimary endAt (depth + bracketDepth) e
      (.symbol .openParen :: (ls ++ [.symbol .closeParen])) := by
  intro fuel ts rest hfuel hts
  simp only [List.length_cons, List.length_append, List.length_nil] at hfuel
  obtain ⟨fuel, rfl⟩ : ∃ k, fuel = k + 1 := Nat.exists_eq_succ_of_ne_zero (by omega)
  obtain ⟨p, ts', rfl, hts'⟩ := lexemes_eq_cons hts
  obtain ⟨ts₁, ts₂, rfl, h₁, h₂⟩ := lexemes_eq_append hts'
  obtain ⟨q, ts₃, rfl, h₃⟩ := lexemes_eq_cons h₂
  rw [lexemes_eq_nil h₃]
  have hread := h fuel ts₁ (⟨.symbol .closeParen, q⟩ :: rest) (by omega) h₁
    (endsExpression_symbol (.inl rfl))
  have hdeep : ¬ depth + bracketDepth < bracketDepth := by omega
  simp only [List.cons_append, List.append_assoc, List.nil_append, parsePrimary, if_neg hdeep,
    Nat.add_sub_cancel, hread, ok_bind, expect, if_true]
  rfl

theorem ReadsAccess.dotted (name : String) (h : ReadsAccess endAt depth e ls) :
    ReadsAccess endAt depth (.member e (.literal (.text name)))
      (ls ++ [.symbol .dot, .name name]) := by
  intro fuel ts rest hfuel hts hr
  simp only [List.length_append, List.length_cons, List.length_nil] at hfuel
  obtain ⟨ts₁, ts₂, rfl, h₁, h₂⟩ := lexemes_eq_append hts
  obtain ⟨p, ts₃, rfl, h₃⟩ := lexemes_eq_cons h₂
  obtain ⟨q, ts₄, rfl, h₄⟩ := lexemes_eq_cons h₃
  obtain rfl := lexemes_eq_nil h₄
  obtain ⟨k, hk, hread⟩ := h fuel ts₁ (⟨.symbol .dot, p⟩ :: ⟨.name name, q⟩ :: rest) (by omega) h₁
    (by rintro t ⟨⟩; simp)
  obtain ⟨left, hleft⟩ : ∃ n, fuel - k = n + 1 := Nat.exists_eq_succ_of_ne_zero (by omega)
  refine ⟨k + 1, by simp; omega, ?_⟩
  simp only [List.append_assoc, List.cons_append, List.nil_append]
  rw [hread, hleft, show fuel - (k + 1) = left by omega]
  rw [parseAccess]
  rintro position more rfl
  exact hr _ rfl rfl

theorem ReadsAccess.indexed {key : Expression} {ks : List Lexeme}
    (h : ReadsAccess endAt (depth + bracketDepth) e ls) (hk : ReadsExpression endAt depth key ks) :
    ReadsAccess endAt (depth + bracketDepth) (.member e key)
      (ls ++ .symbol .openBracket :: (ks ++ [.symbol .closeBracket])) := by
  intro fuel ts rest hfuel hts _
  simp only [List.length_append, List.length_cons, List.length_nil] at hfuel
  obtain ⟨ts₁, ts₂, rfl, h₁, h₂⟩ := lexemes_eq_append hts
  obtain ⟨p, ts₃, rfl, h₃⟩ := lexemes_eq_cons h₂
  obtain ⟨ts₄, ts₅, rfl, h₄, h₅⟩ := lexemes_eq_append h₃
  obtain ⟨q, ts₆, rfl, h₆⟩ := lexemes_eq_cons h₅
  obtain rfl := lexemes_eq_nil h₆
  obtain ⟨k, hlt, hread⟩ := h fuel ts₁
    (⟨.symbol .openBracket, p⟩ :: (ts₄ ++ ⟨.symbol .closeBracket, q⟩ :: rest)) (by omega) h₁
    (by rintro t ⟨⟩; simp)
  obtain ⟨left, hleft⟩ : ∃ n, fuel - k = n + 1 := Nat.exists_eq_succ_of_ne_zero (by omega)
  have hkey := hk left ts₄ (⟨.symbol .closeBracket, q⟩ :: rest) (by omega) h₄
    (endsExpression_symbol (.inr (.inl rfl)))
  have hdeep : ¬ depth + bracketDepth < bracketDepth := by omega
  refine ⟨k + 1, by simp; omega, ?_⟩
  simp only [List.append_assoc, List.cons_append, List.nil_append]
  rw [hread, hleft, show fuel - (k + 1) = left by omega, parseAccess]
  simp only [if_neg hdeep, Nat.add_sub_cancel, hkey, ok_bind, expect, if_true]

/-- Arguments with commas between them are read up to the parenthesis that closes them. -/
theorem parseArgumentList_reads {arguments : List (Expression × List Lexeme)}
    (h : ∀ a ∈ arguments, ReadsExpression endAt depth a.1 a.2) (hne : arguments ≠ []) {fuel : Nat}
    {ts rest : List Token} {position : Nat}
    (hfuel : 4 * (separated (arguments.map Prod.snd)).length + 2 ≤ fuel)
    (hts : lexemes ts = separated (arguments.map Prod.snd)) :
    parseArgumentList endAt fuel depth (ts ++ ⟨.symbol .closeParen, position⟩ :: rest) =
      .ok (arguments.map Prod.fst, rest) := by
  induction arguments generalizing fuel ts with
  | nil => cases hne rfl
  | cons a arguments ih =>
    obtain ⟨fuel, rfl⟩ : ∃ k, fuel = k + 1 := Nat.exists_eq_succ_of_ne_zero (by omega)
    have ha := h a List.mem_cons_self
    cases arguments with
    | nil =>
      have hread := ha fuel ts (⟨.symbol .closeParen, position⟩ :: rest)
        (by simpa [separated_singleton] using hfuel) (by simpa [separated_singleton] using hts)
        (endsExpression_symbol (.inl rfl))
      rw [parseArgumentList]
      simp only [hread, ok_bind]
      rfl
    | cons b arguments =>
      have hsep : separated ((a :: b :: arguments).map Prod.snd) =
          a.2 ++ .symbol .comma :: separated ((b :: arguments).map Prod.snd) :=
        separated_cons_cons _ _ _
      rw [hsep] at hfuel hts
      rw [List.length_append, List.length_cons] at hfuel
      obtain ⟨ts₁, ts₂, rfl, h₁, h₂⟩ := lexemes_eq_append hts
      obtain ⟨p, ts₃, rfl, h₃⟩ := lexemes_eq_cons h₂
      have hread := ha fuel ts₁ (⟨.symbol .comma, p⟩ :: (ts₃ ++
        ⟨.symbol .closeParen, position⟩ :: rest)) (by omega) h₁
        (endsExpression_symbol (.inr (.inr rfl)))
      have hmore : parseArgumentList endAt fuel depth
          (ts₃ ++ ⟨.symbol .closeParen, position⟩ :: rest) =
            .ok ((b :: arguments).map Prod.fst, rest) :=
        ih (fun c hc => h c (List.mem_cons_of_mem _ hc)) (by simp) (by omega) h₃
      rw [parseArgumentList]
      simp only [List.append_assoc, List.cons_append, hread, hmore, ok_bind]
      rfl

theorem separated_cons (ls : List Lexeme) (rest : List (List Lexeme)) :
    ∃ others, separated (ls :: rest) = ls ++ others := by
  cases rest with
  | nil => exact ⟨[], by simp [separated_singleton]⟩
  | cons rs rest => exact ⟨_, separated_cons_cons ls rs rest⟩

theorem parseArguments_reads {arguments : List (Expression × List Lexeme)}
    (h : ∀ a ∈ arguments, ReadsExpression endAt depth a.1 a.2)
    (hs : ∀ a ∈ arguments, ∃ l more, a.2 = l :: more ∧ l ≠ .symbol .closeParen) {fuel : Nat}
    {ts rest : List Token} {position : Nat}
    (hfuel : 4 * (separated (arguments.map Prod.snd)).length + 3 ≤ fuel)
    (hts : lexemes ts = separated (arguments.map Prod.snd)) :
    parseArguments endAt fuel depth (ts ++ ⟨.symbol .closeParen, position⟩ :: rest) =
      .ok (arguments.map Prod.fst, rest) := by
  obtain ⟨fuel, rfl⟩ : ∃ k, fuel = k + 1 := Nat.exists_eq_succ_of_ne_zero (by omega)
  cases arguments with
  | nil =>
    obtain rfl := lexemes_eq_nil hts
    simp [parseArguments]
  | cons a arguments =>
    have hlist :
        parseArgumentList endAt fuel depth (ts ++ ⟨.symbol .closeParen, position⟩ :: rest) =
        .ok ((a :: arguments).map Prod.fst, rest) :=
      parseArgumentList_reads h (by simp) (Nat.le_of_succ_le_succ hfuel) hts
    obtain ⟨l, more, ha, hl⟩ := hs a List.mem_cons_self
    obtain ⟨others, hsep⟩ := separated_cons a.2 (arguments.map Prod.snd)
    rw [List.map_cons, hsep, ha, List.cons_append] at hts
    obtain ⟨p, ts', rfl, _⟩ := lexemes_eq_cons hts
    rw [List.cons_append, parseArguments, ← List.cons_append, hlist]
    rintro p' more' heq
    cases heq
    exact hl rfl

theorem ReadsAccess.called {arguments : List (Expression × List Lexeme)}
    (h : ReadsAccess endAt (depth + bracketDepth) e ls)
    (ha : ∀ a ∈ arguments, ReadsExpression endAt depth a.1 a.2)
    (hs : ∀ a ∈ arguments, ∃ l more, a.2 = l :: more ∧ l ≠ .symbol .closeParen) :
    ReadsAccess endAt (depth + bracketDepth) (.includes e (arguments.map Prod.fst))
      (ls ++ .symbol .dot :: .name methodName :: .symbol .openParen ::
        (separated (arguments.map Prod.snd) ++ [.symbol .closeParen])) := by
  intro fuel ts rest hfuel hts _
  simp only [List.length_append, List.length_cons, List.length_nil] at hfuel
  obtain ⟨ts₁, ts₂, rfl, h₁, h₂⟩ := lexemes_eq_append hts
  obtain ⟨p, ts₃, rfl, h₃⟩ := lexemes_eq_cons h₂
  obtain ⟨q, ts₄, rfl, h₄⟩ := lexemes_eq_cons h₃
  obtain ⟨r, ts₅, rfl, h₅⟩ := lexemes_eq_cons h₄
  obtain ⟨ts₆, ts₇, rfl, h₆, h₇⟩ := lexemes_eq_append h₅
  obtain ⟨s, ts₈, rfl, h₈⟩ := lexemes_eq_cons h₇
  obtain rfl := lexemes_eq_nil h₈
  obtain ⟨k, hlt, hread⟩ := h fuel ts₁ (⟨.symbol .dot, p⟩ :: ⟨.name methodName, q⟩ ::
    ⟨.symbol .openParen, r⟩ :: (ts₆ ++ ⟨.symbol .closeParen, s⟩ :: rest)) (by omega) h₁
    (by rintro t ⟨⟩; simp)
  obtain ⟨left, hleft⟩ : ∃ n, fuel - k = n + 1 := Nat.exists_eq_succ_of_ne_zero (by omega)
  have hargs : parseArguments endAt left depth (ts₆ ++ ⟨.symbol .closeParen, s⟩ :: rest) =
      .ok (arguments.map Prod.fst, rest) := parseArguments_reads ha hs (by omega) h₆
  have hdeep : ¬ depth + bracketDepth < bracketDepth := by omega
  refine ⟨k + 1, by simp; omega, ?_⟩
  simp only [List.append_assoc, List.cons_append, List.nil_append]
  rw [hread, hleft, show fuel - (k + 1) = left by omega, parseAccess]
  simp only [bne_self_eq_false, Bool.false_eq_true, if_false, if_neg hdeep, Nat.add_sub_cancel,
    hargs, ok_bind]

/-- What the parser does with a phrase of each level. -/
structure Reads (endAt depth level : Nat) (e : Expression) (ls : List Lexeme) : Prop where
  chain : level ≤ signLevel → ReadsChain endAt depth level e ls
  access : level = accessLevel → ReadsAccess endAt depth e ls
  primary : atomLevel ≤ level → ReadsPrimary endAt depth e ls

/-- Every phrase is read as what it spells. -/
theorem Phrase.reads (h : Phrase depth level e ls) : Reads endAt depth level e ls := by
  induction h with
  | @tighter depth level e ls hp ih =>
    refine ⟨fun hl => ?_, fun hl => ?_, fun hl => ih.primary (Nat.le_succ_of_le hl)⟩
    · rcases Nat.lt_or_eq_of_le hl with hl | rfl
      · exact (ih.chain hl).tighter hl
      · obtain ⟨l, more, hls, _, hs⟩ := hp.starts
        exact ((ih.access rfl).operand ⟨l, more, hls, hs (Nat.le_refl _)⟩).chain
    · subst hl
      obtain ⟨l, more, rfl, _, _⟩ := hp.starts
      exact (ih.primary (Nat.le_refl _)).access (by simp)
  | binary o _ _ iha ihb =>
    have hl := o.level_lt
    refine ⟨fun _ => (iha.chain (Nat.le_of_lt hl)).binary (ihb.chain hl), fun h => ?_, fun h => ?_⟩
    · exact absurd (h ▸ hl) (by decide)
    · exact absurd (Nat.lt_of_le_of_lt h hl) (by decide)
  | sign s _ ih =>
    have hchain := ((ih.chain (Nat.le_refl _)).operand.sign s).chain
    exact ⟨fun _ => hchain, fun h => absurd h (by decide), fun h => absurd h (by decide)⟩
  | dotted name _ ih =>
    exact ⟨fun h => absurd h (by decide), fun _ => (ih.access rfl).dotted name,
      fun h => absurd h (by decide)⟩
  | indexed _ _ ihe ihk =>
    exact ⟨fun h => absurd h (by decide),
      fun _ => (ihe.access rfl).indexed (ihk.chain (Nat.zero_le _)).expression,
      fun h => absurd h (by decide)⟩
  | called _ ha ihe iha =>
    refine ⟨fun h => absurd h (by decide), fun _ => ?_, fun h => absurd h (by decide)⟩
    refine (ihe.access rfl).called (fun a hm => ((iha a hm).chain (Nat.zero_le _)).expression) ?_
    intro a hm
    obtain ⟨l, more, hls, hl, _⟩ := (ha a hm).starts
    exact ⟨l, more, hls, hl⟩
  | literal l =>
    exact ⟨fun h => absurd h (by decide), fun h => absurd h (by decide), fun _ => .literal l⟩
  | name hs =>
    exact ⟨fun h => absurd h (by decide), fun h => absurd h (by decide), fun _ => .name hs⟩
  | grouped _ ih =>
    exact ⟨fun h => absurd h (by decide), fun h => absurd h (by decide),
      fun _ => (ih.chain (Nat.zero_le _)).expression.grouped⟩

end Storyline.Condition
