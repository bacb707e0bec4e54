import FormSchema.Proofs.Yaml.Outline.Tokens
import FormSchema.Yaml.Node.Reader

/-!
# FormSchema — the nodes of an outline

The tokens of an outline are read back as its tree. A value that is left out is an empty scalar, as
the reader finds the next key, or the end of the block, where the value would stand.

* **`TokenReader.Takes`** — a reader takes tokens off the front, whatever anchors are known.
* **`takes_outline`**, **`takes_entries`** — the tokens of an outline and of a block, by induction
  on it, with fuel for as many tokens.
* **`readNode?_entriesText`** — a document in block style is read as the node of its outline.
-/

namespace FormSchema.Yaml

namespace Outline

mutual

/-- The node of an outline: plain scalars go by their form, and nothing is an empty scalar. -/
def node : Outline → Node
  | .word w => .scalar (Tag.ofPlain w) w
  | .block [] => .empty
  | .block (entry :: rest) => .mapping .mapping (entryNodes (entry :: rest))

def entryNodes : List (String × Outline) → List (Node × Node)
  | [] => []
  | (key, outline) :: rest => (.scalar (Tag.ofPlain key) key, outline.node) :: entryNodes rest

end

end Outline

namespace TokenReader

variable {α β : Type}

/-- A reader takes tokens off the front and gives a value. -/
def Takes (reader : TokenReader α) (tokens : List Token) (value : α) (rest : List Token) : Prop :=
  ∀ anchors, reader.run ⟨tokens, anchors⟩ = .ok (value, ⟨rest, anchors⟩)

theorem Takes.bind {reader : TokenReader α} {next : α → TokenReader β}
    {tokens middle rest : List Token} {a : α} {b : β} (h : Takes reader tokens a middle)
    (hnext : Takes (next a) middle b rest) : Takes (reader >>= next) tokens b rest := by
  intro anchors
  rw [StateT.run_bind, h anchors]
  exact hnext anchors

/-- A reader may look at its state, of which it knows the tokens. -/
theorem Takes.get_bind {next : TokenState → TokenReader β} {tokens rest : List Token} {b : β}
    (h : ∀ anchors, Takes (next ⟨tokens, anchors⟩) tokens b rest) :
    Takes (get >>= next) tokens b rest := fun anchors => h anchors anchors

theorem takes_pure (value : α) (tokens : List Token) : Takes (pure value) tokens value tokens :=
  fun _ => rfl

theorem takes_peek (token : Token) (rest : List Token) :
    Takes peek (token :: rest) token (token :: rest) := fun _ => rfl

theorem takes_skip (token : Token) (rest : List Token) : Takes skip (token :: rest) () rest :=
  fun _ => rfl

theorem takes_skipIf_self (token : Token) (rest : List Token) :
    Takes (skipIf token) (token :: rest) true rest := by
  refine (takes_peek token rest).bind ?_
  rw [if_pos (beq_self_eq_true token)]
  exact (takes_skip token rest).bind (takes_pure true rest)

theorem takes_skipIf_of_ne {token other : Token} (h : token ≠ other) (rest : List Token) :
    Takes (skipIf other) (token :: rest) false (token :: rest) := by
  refine (takes_peek token rest).bind ?_
  rw [if_neg (by simpa using h)]
  exact takes_pure false _

theorem takes_expect (token : Token) (rest : List Token) :
    Takes (expect token) (token :: rest) () rest :=
  (takes_skipIf_self token rest).bind (takes_pure () rest)

/-! ## Scalars and blocks -/

theorem takes_scalar (handles : Handles) (fuel : Nat) (w : String) (rest : List Token) :
    Takes (node handles (fuel + 1) .pair) (.scalar w true :: rest) (.scalar (Tag.ofPlain w) w)
      rest := fun _ => rfl

/-- A block is read pair by pair. -/
theorem takes_block {handles : Handles} {fuel : Nat} {place : Place} (hplace : place ≠ .flow)
    {tokens rest : List Token} {pairs : List (Node × Node)}
    (h : Takes (gather (blockPair? (node handles fuel .pair)) (tokens.length + 2)) tokens pairs
      rest) :
    Takes (node handles (fuel + 1) place) (.blockMappingStart :: tokens)
      (.mapping .mapping pairs) rest := by
  have hproperties : Takes (properties handles) (.blockMappingStart :: tokens) (none, none)
      (.blockMappingStart :: tokens) := fun _ => rfl
  have hblock : Takes (do
      skip
      let pairs ← gather (blockPair? (node handles fuel .pair)) (tokens.length + 2)
      let whole ← pure (.mapping .mapping pairs)
      closeAnchor whole none) (.blockMappingStart :: tokens) (.mapping .mapping pairs) rest :=
    (takes_skip _ _).bind (h.bind ((takes_pure _ _).bind (takes_pure _ _)))
  unfold node
  refine (takes_peek _ _).bind (hproperties.bind (.get_bind fun anchors => ?_))
  refine (takes_pure () _).bind ((takes_peek _ _).bind ?_)
  cases place with
  | flow => exact absurd rfl hplace
  | block => exact hblock
  | pair => exact hblock

/-! ## Outlines -/

open Outline

/-- What stands behind a value in a block: the next key, or the end of the block. -/
def endsPair : List Token := [.key, .value, .blockEnd]

/-- The tokens behind a value, in front of the end of its block. -/
theorem exists_entryTokens_append (entries : List (String × Outline)) (rest : List Token) :
    ∃ token tokens, entryTokens entries ++ .blockEnd :: rest = token :: tokens
      ∧ token ∈ endsPair := by
  cases entries with
  | nil => exact ⟨.blockEnd, rest, rfl, by decide⟩
  | cons entry entries => exact ⟨.key, _, by rw [entryTokens]; rfl, by decide⟩

theorem takes_orEmpty_of_not_mem {ends : List Token} {reader : TokenReader Node} {token : Token}
    {tokens rest : List Token} {node : Node} (hends : token ∉ ends)
    (h : Takes reader (token :: tokens) node rest) :
    Takes (orEmpty ends reader) (token :: tokens) node rest := by
  refine (takes_peek token tokens).bind ?_
  rw [if_neg hends]
  exact h

theorem takes_orEmpty_of_mem {ends : List Token} {token : Token} (hends : token ∈ ends)
    (reader : TokenReader Node) (tokens : List Token) :
    Takes (orEmpty ends reader) (token :: tokens) .empty (token :: tokens) := by
  refine (takes_peek token tokens).bind ?_
  rw [if_pos hends]
  exact takes_pure _ _

theorem takes_blockPair?_end (reader : TokenReader Node) (rest : List Token) :
    Takes (blockPair? reader) (.blockEnd :: rest) none rest :=
  (takes_skipIf_of_ne (by decide) rest).bind
    ((takes_expect .blockEnd rest).bind (takes_pure none rest))

/-- A pair is a key, and a value that may be left out. -/
theorem takes_blockPair? {reader : TokenReader Node} {tokens middle rest : List Token}
    {token : Token} (htoken : token ∉ endsPair) {key value : Node}
    (hkey : Takes reader (token :: tokens) key (.value :: middle))
    (hvalue : Takes (orEmpty endsPair reader) middle value rest) :
    Takes (blockPair? reader) (.key :: token :: tokens) (some (key, value)) rest := by
  have hpair : Takes (pairValue endsPair reader) (.value :: middle) value rest :=
    (takes_skipIf_self .value middle).bind hvalue
  exact (takes_skipIf_self .key _).bind ((takes_orEmpty_of_not_mem htoken hkey).bind
    (hpair.bind (takes_pure _ rest)))

theorem length_le_entryTokens (entries : List (String × Outline)) :
    entries.length ≤ (entryTokens entries).length := by
  induction entries with
  | nil => exact Nat.zero_le _
  | cons entry entries ih =>
    rw [entryTokens]
    simp only [List.length_cons, List.length_append]
    omega

mutual

/-- What stands behind a colon is read as its node. -/
theorem takes_outline (handles : Handles) : (outline : Outline) → ∀ {fuel : Nat}
    (_ : outline.tokens.length < fuel) {token : Token} (_ : token ∈ endsPair) (rest : List Token),
    Takes (orEmpty endsPair (node handles fuel .pair)) (outline.tokens ++ token :: rest)
      outline.node (token :: rest)
  | .word w, fuel, hfuel, token, _, rest => by
    obtain ⟨fuel, rfl⟩ := Nat.exists_eq_succ_of_ne_zero (by omega : fuel ≠ 0)
    exact takes_orEmpty_of_not_mem (by simp [endsPair]) (takes_scalar handles fuel w _)
  | .block [], _, _, token, htoken, rest => takes_orEmpty_of_mem htoken _ _
  | .block (entry :: entries), fuel, hfuel, token, _, rest => by
    obtain ⟨fuel, rfl⟩ := Nat.exists_eq_succ_of_ne_zero (by omega : fuel ≠ 0)
    have hlength : (entryTokens (entry :: entries)).length < fuel := by
      rw [Outline.tokens, List.length_cons] at hfuel
      simp only [List.length_append] at hfuel
      omega
    rw [Outline.tokens, List.cons_append, List.append_assoc]
    refine takes_orEmpty_of_not_mem (by decide) (takes_block (by decide) ?_)
    refine takes_entries handles (entry :: entries) hlength ?_ _
    have hcount := length_le_entryTokens (entry :: entries)
    rw [List.length_append]
    omega

/-- The pairs of a block, up to its end. -/
theorem takes_entries (handles : Handles) : (entries : List (String × Outline)) →
    ∀ {fuel : Nat} (_ : (entryTokens entries).length < fuel) {count : Nat}
      (_ : entries.length < count) (rest : List Token),
    Takes (gather (blockPair? (node handles fuel .pair)) count)
      (entryTokens entries ++ .blockEnd :: rest) (entryNodes entries) rest
  | [], _, _, count, hcount, rest => by
    obtain ⟨count, rfl⟩ := Nat.exists_eq_succ_of_ne_zero (by omega : count ≠ 0)
    exact (takes_blockPair?_end _ rest).bind (takes_pure [] rest)
  | (key, outline) :: entries, fuel, hfuel, count, hcount, rest => by
    obtain ⟨count, rfl⟩ := Nat.exists_eq_succ_of_ne_zero (by omega : count ≠ 0)
    obtain ⟨fuel, rfl⟩ := Nat.exists_eq_succ_of_ne_zero (by omega : fuel ≠ 0)
    obtain ⟨token, tokens, hrest, htoken⟩ := exists_entryTokens_append entries rest
    rw [entryTokens, List.length_cons, List.length_cons, List.length_cons, List.length_append]
      at hfuel
    have hcount : entries.length < count := by simpa using hcount
    have hvalue := takes_outline handles outline (by omega : outline.tokens.length < fuel + 1)
      htoken tokens
    rw [← hrest] at hvalue
    have hpair := takes_blockPair? (by simp [endsPair]) (takes_scalar handles fuel key _) hvalue
    have hothers := takes_entries handles entries
      (by omega : (entryTokens entries).length < fuel + 1) hcount rest
    rw [entryTokens, List.cons_append, List.cons_append, List.cons_append, List.append_assoc]
    exact hpair.bind (hothers.bind (takes_pure (_ :: entryNodes entries) rest))

end

/-! ## Documents -/

theorem takes_documentEnds (fuel : Nat) :
    Takes (documentEnds (fuel + 1)) [.streamEnd] () [.streamEnd] :=
  (takes_skipIf_of_ne (by decide) []).bind (takes_pure () _)

/-- A document that is one block is read as the block's node. -/
theorem takes_document? (entry : String × Outline) (rest : List (String × Outline)) :
    Takes document? ((Outline.block (entry :: rest)).tokens ++ [.streamEnd])
      (some (Outline.block (entry :: rest)).node) [.streamEnd] := by
  let inner := entryTokens (entry :: rest) ++ [.blockEnd, .streamEnd]
  have htokens : (Outline.block (entry :: rest)).tokens ++ [.streamEnd]
      = .blockMappingStart :: inner := by
    rw [Outline.tokens, List.cons_append, List.append_assoc]
    rfl
  have hcount := length_le_entryTokens (entry :: rest)
  have hlength : inner.length = (entryTokens (entry :: rest)).length + 2 := List.length_append
  have hentries := takes_entries usualHandles (entry :: rest)
    (by omega : _ < inner.length + 1) (by omega : _ < inner.length + 2) [.streamEnd]
  have hnode : Takes (TokenReader.node usualHandles (inner.length + 2) .block)
      (.blockMappingStart :: inner) (Outline.block (entry :: rest)).node [.streamEnd] :=
    takes_block (by decide) hentries
  rw [htokens]
  refine .get_bind fun anchors => ?_
  refine (takes_peek _ _).bind ((takes_peek _ _).bind (hnode.bind ?_))
  exact (takes_documentEnds _).bind ((takes_peek _ _).bind (takes_pure _ _))

end TokenReader

open TokenReader Outline

/-- **Reading an outline.** A document in block style is read as the nodes of its outline. -/
theorem readNode?_entriesText {width : Nat} (hwidth : 0 < width)
    {entries : List (String × Outline)} (hne : entries ≠ []) (hplain : PlainEntries entries) :
    readNode? (entriesText width 0 entries) = .ok (some (Outline.block entries).node) := by
  obtain ⟨entry, rest, rfl⟩ := List.exists_cons_of_ne_nil hne
  unfold readNode?
  rw [tokens_entriesText hwidth hne hplain]
  dsimp only [bind, Except.bind]
  rw [takes_document? entry rest []]
  rfl

end FormSchema.Yaml
