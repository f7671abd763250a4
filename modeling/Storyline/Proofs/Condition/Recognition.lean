import Storyline.Proofs.Condition.Reading

namespace Storyline.Condition

def Lexeme.load : Lexeme → Nat
  | .symbol .openParen | .symbol .openBracket => bracketDepth
  | .symbol .not | .symbol (.operator .add) | .symbol (.operator .subtract) => 1
  | _ => 0

def weight : List Lexeme → Nat
  | [] => 0
  | l :: ls => l.load + weight ls

def Refused (depth : Nat) (ts : List Token) (f : SyntaxFault) : Prop :=
  Failing.sort f = .malformed ∨ Failing.sort f = .forbidden ∨
    f = .tooDeep ∧ depth < weight (lexemes ts)

/-- A part of the parser reads something of a kind at the front of the tokens, or refuses them. -/
def Recognises {α : Type} (depth : Nat) (ts : List Token) (kind : α → List Lexeme → Prop) :
    Except SyntaxFault (α × List Token) → Prop
  | .ok (a, rest) => ∃ used, ts = used ++ rest ∧ kind a (lexemes used)
  | .error f => Refused depth ts f

section
variable {α β : Type} {depth d : Nat} {ts rest : List Token} {kind : α → List Lexeme → Prop}
  {kind' : β → List Lexeme → Prop} {f : SyntaxFault}

theorem lexemes_append (ts rest : List Token) : lexemes (ts ++ rest) = lexemes ts ++ lexemes rest :=
  List.map_append

theorem weight_append (ls rs : List Lexeme) : weight (ls ++ rs) = weight ls + weight rs := by
  induction ls with
  | nil => simp [weight]
  | cons l ls ih => rw [List.cons_append, weight, weight, ih, Nat.add_assoc]

/-- The depth does not suffice for the first token. -/
theorem refused_deep {t : Token} (hd : depth < t.lexeme.load) :
    Refused depth (t :: rest) .tooDeep := by
  refine .inr (.inr ⟨rfl, ?_⟩)
  rw [lexemes, List.map_cons, weight]
  omega

theorem Refused.behind (h : Refused depth rest f) (used : List Token) :
    Refused depth (used ++ rest) f := by
  rcases h with h | h | ⟨hf, hw⟩
  · exact .inl h
  · exact .inr (.inl h)
  · refine .inr (.inr ⟨hf, ?_⟩)
    rw [lexemes_append, weight_append]
    omega

/-- What is read behind the first token, and perhaps deeper. -/
theorem Recognises.behind {t : Token} {r : Except SyntaxFault (α × List Token)}
    (h : Recognises d rest (fun a ls => kind a (t.lexeme :: ls)) r)
    (hd : depth ≤ d + t.lexeme.load) : Recognises depth (t :: rest) kind r := by
  obtain g | ⟨a, left⟩ := r
  · rcases h with h | h | ⟨hf, hw⟩
    · exact .inl h
    · exact .inr (.inl h)
    · refine .inr (.inr ⟨hf, ?_⟩)
      rw [lexemes, List.map_cons, weight]
      rw [lexemes] at hw
      omega
  · obtain ⟨used, rfl, hk⟩ := h
    exact ⟨t :: used, rfl, hk⟩

/-- One thing is read after the other. -/
theorem Recognises.bind {x : Except SyntaxFault (α × List Token)}
    {next : α × List Token → Except SyntaxFault (β × List Token)} (h : Recognises depth ts kind x)
    (hnext : ∀ a used rest, ts = used ++ rest → kind a (lexemes used) →
      Recognises depth rest (fun b ls => kind' b (lexemes used ++ ls)) (next (a, rest))) :
    Recognises depth ts kind' (x >>= next) := by
  obtain g | ⟨a, rest⟩ := x
  · exact h
  · obtain ⟨used, rfl, hk⟩ := h
    have hn := hnext a used rest rfl hk
    show Recognises depth (used ++ rest) kind' (next (a, rest))
    generalize next (a, rest) = r at hn ⊢
    obtain g | ⟨b, left⟩ := r
    · exact Refused.behind hn used
    · obtain ⟨more, rfl, hk'⟩ := hn
      exact ⟨used ++ more, by simp, by rw [lexemes_append]; exact hk'⟩

theorem Recognises.imp {r : Except SyntaxFault (α × List Token)} {kind' : α → List Lexeme → Prop}
    (h : Recognises depth ts kind r) (hk : ∀ a ls, kind a ls → kind' a ls) :
    Recognises depth ts kind' r := by
  obtain g | ⟨a, rest⟩ := r
  · exact h
  · obtain ⟨used, hts, hused⟩ := h
    exact ⟨used, hts, hk a _ hused⟩

end

/-- The lexemes spell arguments up to the parenthesis that closes them. -/
def Argued (depth : Nat) (es : List Expression) (ls : List Lexeme) : Prop :=
  ∃ arguments : List (Expression × List Lexeme), es = arguments.map Prod.fst ∧
    ls = separated (arguments.map Prod.snd) ++ [.symbol .closeParen] ∧
    ∀ a ∈ arguments, Phrase depth 0 a.1 a.2

/-- What each part of the parser recognises with so much fuel, if that is enough for the tokens. -/
structure Recognisers (endAt fuel : Nat) : Prop where
  expression : ∀ depth ts, 4 * ts.length + 4 ≤ fuel →
    Recognises depth ts (Phrase depth 0) (parseExpression endAt fuel depth ts)
  tail : ∀ depth ts, 4 * ts.length + 4 ≤ fuel →
    Recognises depth ts (Tailed (Phrase depth signLevel)) (parseTail endAt fuel depth ts)
  operand : ∀ depth ts, 4 * ts.length + 3 ≤ fuel →
    Recognises depth ts (Phrase depth signLevel) (parseOperand endAt fuel depth ts)
  primary : ∀ depth ts, 4 * ts.length + 2 ≤ fuel →
    Recognises depth ts (Phrase depth atomLevel) (parsePrimary endAt fuel depth ts)
  access : ∀ depth target ks ts, 4 * ts.length + 4 ≤ fuel → Phrase depth accessLevel target ks →
    Recognises depth ts (fun e ls => Phrase depth accessLevel e (ks ++ ls))
      (parseAccess endAt fuel depth target ts)
  arguments : ∀ depth ts, 4 * ts.length + 6 ≤ fuel →
    Recognises depth ts (Argued depth) (parseArguments endAt fuel depth ts)
  argumentList : ∀ depth ts, 4 * ts.length + 5 ≤ fuel →
    Recognises depth ts (fun es ls => es ≠ [] ∧ Argued depth es ls)
      (parseArgumentList endAt fuel depth ts)

variable {endAt fuel depth : Nat} {ts : List Token}

theorem length_behind {used rest : List Token} {level : Nat} {e : Expression}
    (hts : ts = used ++ rest) (h : Phrase depth level e (lexemes used)) :
    rest.length < ts.length := by
  obtain ⟨l, more, hl, _⟩ := h.starts
  have hne : used ≠ [] := by
    rintro rfl
    cases hl
  rw [hts, List.length_append]
  have := List.length_pos_iff.mpr hne
  omega

theorem parseExpression_recognises (h : Recognisers endAt fuel)
    (hfuel : 4 * ts.length + 4 ≤ fuel + 1) :
    Recognises depth ts (Phrase depth 0) (parseExpression endAt (fuel + 1) depth ts) := by
  rw [parseExpression]
  refine (h.operand depth ts (by omega)).bind fun first used rest hts hf => ?_
  have hlt := length_behind hts hf
  refine (h.tail depth rest (by omega)).bind fun tail used' rest' _ ht => ?_
  exact ⟨[], rfl, by simpa [lexemes] using group_phrase hf ht⟩

theorem operatorOf?_eq_some {l : Lexeme} {o : Operator} (h : operatorOf? l = some o) :
    l = .symbol (.operator o) := by
  unfold operatorOf? at h
  split at h
  · cases h
    rfl
  · cases h

theorem signOf?_eq_some {l : Lexeme} {s : Sign} (h : signOf? l = some s) :
    l = .symbol s.symbol ∧ l.load = 1 := by
  unfold signOf? at h
  split at h <;> cases h <;> exact ⟨rfl, rfl⟩

theorem parseTail_recognises (h : Recognisers endAt fuel)
    (hfuel : 4 * ts.length + 4 ≤ fuel + 1) :
    Recognises depth ts (Tailed (Phrase depth signLevel))
      (parseTail endAt (fuel + 1) depth ts) := by
  cases ts with
  | nil =>
    simp only [parseTail]
    exact ⟨[], rfl, .nil⟩
  | cons t rest =>
    rw [List.length_cons] at hfuel
    rw [parseTail]
    split
    · exact ⟨[], rfl, .nil⟩
    · rename_i o ho
      have ho' := operatorOf?_eq_some ho
      refine Recognises.behind ?_ (Nat.le_add_right depth _)
      refine (h.operand depth rest (by omega)).bind fun e used rest' hts he => ?_
      have hlt := length_behind hts he
      refine (h.tail depth rest' (by omega)).bind fun tail used' rest'' _ ht => ?_
      refine ⟨[], rfl, ?_⟩
      simpa [ho', lexemes] using Tailed.cons he ht

theorem parseOperand_recognises (h : Recognisers endAt fuel)
    (hfuel : 4 * ts.length + 3 ≤ fuel + 1) :
    Recognises depth ts (Phrase depth signLevel) (parseOperand endAt (fuel + 1) depth ts) := by
  cases ts with
  | nil =>
    rw [parseOperand]
    exact .inl rfl
  | cons t rest =>
    rw [List.length_cons] at hfuel
    rw [parseOperand]
    dsimp only
    split
    · rename_i s hs
      obtain ⟨hl, hload⟩ := signOf?_eq_some hs
      split
      · rename_i hd
        exact refused_deep (by omega)
      · rename_i hd
        refine Recognises.behind (d := depth - 1) ?_ (by omega)
        refine (h.operand (depth - 1) rest (by omega)).bind fun e used rest' _ he => ?_
        refine ⟨[], rfl, ?_⟩
        have hsign := Phrase.sign s he
        rw [Nat.sub_add_cancel (Nat.one_le_iff_ne_zero.mpr hd)] at hsign
        simpa [hl, lexemes] using hsign
    · refine (h.primary depth (t :: rest) (by rw [List.length_cons]; omega)).bind
        fun e used rest' hts he => ?_
      have hlt := length_behind hts he
      rw [List.length_cons] at hlt
      exact (h.access depth e (lexemes used) rest' (by omega) (.tighter he)).imp
        fun _ _ hp => .tighter hp

/-- After a symbol that has to be there. -/
theorem Recognises.expect {β : Type} {kind : β → List Lexeme → Prop} {wanted : Symbol}
    {next : List Token → Except SyntaxFault (β × List Token)}
    (h : ∀ t rest, ts = t :: rest → t.lexeme = .symbol wanted →
      Recognises depth rest (fun b ls => kind b (.symbol wanted :: ls)) (next rest)) :
    Recognises depth ts kind (Condition.expect wanted ts >>= next) := by
  cases ts with
  | nil => exact .inl rfl
  | cons t rest =>
    by_cases hl : t.lexeme = .symbol wanted
    · have hread := h t rest rfl hl
      rw [← hl] at hread
      simp only [Condition.expect, if_pos hl]
      exact hread.behind (Nat.le_add_right depth _)
    · simp only [Condition.expect, if_neg hl]
      exact .inl rfl

/-- A name stands for itself, or for a fixed value. -/
theorem ofName_phrase (s : String) : Phrase depth atomLevel (ofName s) [.name s] := by
  unfold ofName
  split
  · rename_i l hl
    unfold literalName? at hl
    split at hl <;> cases hl
    · exact .literal (.bool true)
    · exact .literal (.bool false)
    · exact .literal .null
    · exact .literal .undefined
  · rename_i hs
    exact .name hs

theorem parsePrimary_recognises (h : Recognisers endAt fuel)
    (hfuel : 4 * ts.length + 2 ≤ fuel + 1) :
    Recognises depth ts (Phrase depth atomLevel) (parsePrimary endAt (fuel + 1) depth ts) := by
  unfold parsePrimary
  split
  · exact ⟨[_], rfl, .literal (.number _)⟩
  · exact ⟨[_], rfl, .literal (.text _)⟩
  · exact ⟨[_], rfl, ofName_phrase _⟩
  · rename_i rest p
    rw [List.length_cons] at hfuel
    split
    · rename_i hd
      exact refused_deep hd
    · rename_i hd
      refine Recognises.behind (d := depth - bracketDepth) ?_ (by show _ ≤ _ + bracketDepth; omega)
      refine (h.expression (depth - bracketDepth) _ (by omega)).bind fun e used rest' _ he => ?_
      refine Recognises.expect fun t left _ hl => ?_
      refine ⟨[], rfl, ?_⟩
      have hgrouped := Phrase.grouped he
      rw [Nat.sub_add_cancel (Nat.le_of_not_lt hd)] at hgrouped
      simpa [lexemes] using hgrouped
  · cases ts with
    | nil => exact .inl rfl
    | cons t rest => exact .inl rfl

theorem parseArguments_recognises (h : Recognisers endAt fuel)
    (hfuel : 4 * ts.length + 6 ≤ fuel + 1) :
    Recognises depth ts (Argued depth) (parseArguments endAt (fuel + 1) depth ts) := by
  unfold parseArguments
  split
  · exact ⟨[_], rfl, [], rfl, rfl, by simp⟩
  · exact (h.argumentList depth ts (by omega)).imp fun _ _ ha => ha.2

theorem parseArgumentList_recognises (h : Recognisers endAt fuel)
    (hfuel : 4 * ts.length + 5 ≤ fuel + 1) :
    Recognises depth ts (fun es ls => es ≠ [] ∧ Argued depth es ls)
      (parseArgumentList endAt (fuel + 1) depth ts) := by
  rw [parseArgumentList]
  refine (h.expression depth ts (by omega)).bind fun e used rest hts he => ?_
  have hlt := length_behind hts he
  dsimp only
  split
  · exact .inl rfl
  · refine ⟨[_], rfl, by simp, [(e, lexemes used)], rfl, ?_, by simpa using he⟩
    simp [lexemes, separated_singleton]
  · rename_i p rest
    rw [List.length_cons] at hlt
    refine Recognises.behind ?_ (Nat.le_add_right depth _)
    refine (h.argumentList depth rest (by omega)).bind fun es used' rest' _ ha => ?_
    obtain ⟨hne, arguments, rfl, hls, ha⟩ := ha
    refine ⟨[], rfl, by simp, (e, lexemes used) :: arguments, rfl, ?_, ?_⟩
    · cases arguments with
      | nil => cases hne rfl
      | cons a arguments =>
        rw [hls]
        simp [lexemes, separated_cons_cons]
    · exact List.forall_mem_cons.mpr ⟨he, ha⟩
  · exact .inl rfl

/-- A name behind a point is a member. -/
theorem access_dotted {target : Expression} {ks : List Lexeme} {name : String} {t : Token}
    {rest : List Token} (h : Recognisers endAt fuel) (hfuel : 4 * rest.length + 4 ≤ fuel)
    (hl : t.lexeme = .name name) (ht : Phrase depth accessLevel target ks) :
    Recognises depth (t :: rest)
      (fun e ls => Phrase depth accessLevel e (ks ++ .symbol .dot :: ls))
      (parseAccess endAt fuel depth (.member target (.literal (.text name))) rest) := by
  refine Recognises.behind ?_ (Nat.le_add_right depth _)
  refine (h.access depth _ _ rest hfuel (.dotted name ht)).imp fun e ls hp => ?_
  simpa [hl] using hp

/-- Arguments behind the name of the method are those of a call. -/
theorem access_called {target : Expression} {ks : List Lexeme} {q r : Nat}
    {rest : List Token} (h : Recognisers endAt fuel) (hfuel : 4 * rest.length + 6 ≤ fuel)
    (hd : bracketDepth ≤ depth) (ht : Phrase depth accessLevel target ks) :
    Recognises depth (⟨.name methodName, q⟩ :: ⟨.symbol .openParen, r⟩ :: rest)
      (fun e ls => Phrase depth accessLevel e (ks ++ .symbol .dot :: ls))
      (do
        let (arguments, rest) ← parseArguments endAt fuel (depth - bracketDepth) rest
        parseAccess endAt fuel depth (.includes target arguments) rest) := by
  have hargs : Recognises depth (⟨.name methodName, q⟩ :: ⟨.symbol .openParen, r⟩ :: rest)
      (fun es ls => ∃ as, ls = .name methodName :: .symbol .openParen :: as ∧
        Argued (depth - bracketDepth) es as)
      (parseArguments endAt fuel (depth - bracketDepth) rest) := by
    refine Recognises.behind (Recognises.behind
      ((h.arguments (depth - bracketDepth) rest hfuel).imp fun es as ha => ⟨as, rfl, ha⟩)
      ?_) (Nat.le_add_right depth _)
    show depth ≤ depth - bracketDepth + bracketDepth
    omega
  refine hargs.bind fun es used rest' hts ha => ?_
  obtain ⟨as, hused, arguments, rfl, rfl, ha⟩ := ha
  have hlen := congrArg List.length hts
  have hulen := congrArg List.length hused
  rw [length_lexemes] at hulen
  simp only [List.length_append, List.length_cons] at hlen hulen
  rw [← Nat.sub_add_cancel hd] at ht
  have hcall := Phrase.called ht ha
  rw [Nat.sub_add_cancel hd] at hcall
  refine (h.access depth _ _ rest' (by omega) hcall).imp fun e ls hp => ?_
  rw [hused]
  simpa using hp

/-- An expression in brackets is the key of a member. -/
theorem access_indexed {target : Expression} {ks : List Lexeme} {p : Nat}
    {rest : List Token} (h : Recognisers endAt fuel) (hfuel : 4 * rest.length + 4 ≤ fuel)
    (hd : bracketDepth ≤ depth) (ht : Phrase depth accessLevel target ks) :
    Recognises depth (⟨.symbol .openBracket, p⟩ :: rest)
      (fun e ls => Phrase depth accessLevel e (ks ++ ls))
      (do
        let (key, rest) ← parseExpression endAt fuel (depth - bracketDepth) rest
        let rest ← expect .closeBracket rest
        parseAccess endAt fuel depth (.member target key) rest) := by
  have hkey : Recognises depth (⟨.symbol .openBracket, p⟩ :: rest)
      (fun key ls => ∃ ks', ls = .symbol .openBracket :: ks' ∧
        Phrase (depth - bracketDepth) 0 key ks')
      (parseExpression endAt fuel (depth - bracketDepth) rest) := by
    refine Recognises.behind
      ((h.expression (depth - bracketDepth) rest hfuel).imp fun key ks' hk => ⟨ks', rfl, hk⟩) ?_
    show depth ≤ depth - bracketDepth + bracketDepth
    omega
  refine hkey.bind fun key used rest' hts hk => ?_
  obtain ⟨ks', hused, hk⟩ := hk
  refine Recognises.expect fun t left hleft _ => ?_
  have hlen := congrArg List.length hts
  rw [hleft] at hlen
  simp only [List.length_append, List.length_cons] at hlen
  rw [← Nat.sub_add_cancel hd] at ht
  have hindexed := Phrase.indexed ht hk
  rw [Nat.sub_add_cancel hd] at hindexed
  refine (h.access depth _ _ left (by omega) hindexed).imp fun e ls hp => ?_
  rw [hused]
  simpa using hp

theorem parseAccess_recognises {target : Expression} {ks : List Lexeme}
    (h : Recognisers endAt fuel) (hfuel : 4 * ts.length + 4 ≤ fuel + 1)
    (ht : Phrase depth accessLevel target ks) :
    Recognises depth ts (fun e ls => Phrase depth accessLevel e (ks ++ ls))
      (parseAccess endAt (fuel + 1) depth target ts) := by
  unfold parseAccess
  split
  · rename_i p rest
    simp only [List.length_cons] at hfuel
    refine Recognises.behind ?_ (Nat.le_add_right depth _)
    split
    · exact .inl rfl
    · rename_i name q r rest
      simp only [List.length_cons] at hfuel
      split
      · exact .inr (.inl rfl)
      · rename_i hname
        obtain rfl : name = methodName := by simpa using hname
        split
        · rename_i hd
          have hdeep : Refused depth (⟨.symbol .openParen, r⟩ :: rest) .tooDeep :=
            refused_deep hd
          exact hdeep.behind [_]
        · rename_i hd
          exact access_called h (by omega) (Nat.le_of_not_lt hd) ht
    · simp only [List.length_cons] at hfuel
      exact access_dotted h (by omega) rfl ht
    · exact .inl rfl
  · rename_i p rest
    rw [List.length_cons] at hfuel
    split
    · rename_i hd
      exact refused_deep hd
    · rename_i hd
      exact access_indexed h (by omega) (Nat.le_of_not_lt hd) ht
  · exact .inr (.inl rfl)
  · exact ⟨[], rfl, by simpa [lexemes] using ht⟩

/-- With enough fuel, whatever is made of tokens is spelled by them. -/
theorem recognisers (endAt fuel : Nat) : Recognisers endAt fuel := by
  induction fuel with
  | zero =>
    constructor <;> intros <;> omega
  | succ fuel ih =>
    exact {
      expression := fun _ _ h => parseExpression_recognises ih h
      tail := fun _ _ h => parseTail_recognises ih h
      operand := fun _ _ h => parseOperand_recognises ih h
      primary := fun _ _ h => parsePrimary_recognises ih h
      access := fun _ _ _ _ h ht => parseAccess_recognises ih h ht
      arguments := fun _ _ h => parseArguments_recognises ih h
      argumentList := fun _ _ h => parseArgumentList_recognises ih h }

end Storyline.Condition
