import PageQuery.Proofs.Yaml.Scanner
import PageQuery.Yaml.Node

namespace PageQuery.Yaml.Node

/-!
# What the reader of nodes refuses

Tokens that do not make a document are refused as malformed and in no other way, so that what else is wrong with a
text is found by its scanner.

* `MildAt`, `mildAt`: the readers of nodes, of items and of entries refuse tokens as malformed only;
* `mild_ofTokens?`: so does the reader of documents;
* `failsOnly_read`: a text without a node is malformed, or it holds an escape of eight digits.
-/

variable {α β : Type}

/-- A reading step is mild if it only ever refuses tokens as malformed. -/
def MildStep (x : Reader α) : Prop := ∀ r : Reading, Mild (x r)

theorem mildStep_pure (a : α) : MildStep (pure a : Reader α) := fun _ => trivial

theorem mildStep_throw : MildStep (throw .malformed : Reader α) := fun _ => rfl

theorem mildStep_get : MildStep (get : Reader Reading) := fun _ => trivial

theorem mildStep_modify (f : Reading → Reading) : MildStep (modify f : Reader Unit) := fun _ => trivial

theorem mildStep_lift {x : Except Error α} (h : Mild x) : MildStep (liftM x : Reader α) := fun _ =>
  failsOnly_bind h fun _ => trivial

theorem mildStep_bind {x : Reader α} {f : α → Reader β} (hx : MildStep x) (hf : ∀ a, MildStep (f a)) :
    MildStep (x >>= f) := fun r => failsOnly_bind (hx r) fun p => hf p.1 p.2

/-! ### Tokens, names and tags -/

theorem mildStep_peek? : MildStep peek? := mildStep_bind mildStep_get fun _ => mildStep_pure _

theorem mildStep_skip : MildStep skip := mildStep_modify _

theorem mildStep_accept (t : Token) : MildStep (accept t) := by
  refine mildStep_bind mildStep_peek? fun next => ?_
  split
  · exact mildStep_bind mildStep_skip fun _ => mildStep_pure _
  · exact mildStep_pure _

theorem mildStep_expect (t : Token) : MildStep (expect t) := by
  refine mildStep_bind (mildStep_accept t) fun found => ?_
  split
  · exact mildStep_throw
  · exact mildStep_pure _

theorem mildStep_sees (ts : List Token) : MildStep (sees ts) := mildStep_bind mildStep_peek? fun _ => mildStep_pure _

theorem mildStep_anchor? : MildStep anchor? := by
  refine mildStep_bind mildStep_peek? fun next => ?_
  split
  · exact mildStep_bind mildStep_skip fun _ => mildStep_pure _
  · exact mildStep_pure _

theorem mild_fullTag (handles : Ordered Text) (handle : Option Text) (suffix : Text) :
    Mild (fullTag handles handle suffix) := by
  unfold fullTag
  split
  · exact trivial
  · split
    · exact rfl
    · exact trivial

theorem mildStep_tag? (handles : Ordered Text) : MildStep (tag? handles) := by
  refine mildStep_bind mildStep_peek? fun next => ?_
  split
  · exact mildStep_bind mildStep_skip fun _ =>
      mildStep_bind (mildStep_lift (mild_fullTag _ _ _)) fun _ => mildStep_pure _
  · exact mildStep_pure _

theorem mildStep_properties (handles : Ordered Text) : MildStep (properties handles) := by
  refine mildStep_bind mildStep_anchor? fun name => ?_
  split
  · exact mildStep_bind (mildStep_tag? handles) fun _ => mildStep_pure _
  · refine mildStep_bind (mildStep_tag? handles) fun tag => ?_
    dsimp only
    split
    · exact mildStep_bind mildStep_anchor? fun _ => mildStep_pure _
    · exact mildStep_bind (mildStep_pure _) fun _ => mildStep_pure _

theorem mildStep_reserve (name : Option Text) : MildStep (reserve name) := by
  unfold reserve
  split
  · exact mildStep_pure _
  · refine mildStep_bind mildStep_get fun _ => ?_
    split
    · exact mildStep_throw
    · exact mildStep_modify _

theorem mildStep_define (name : Option Text) (n : Node) : MildStep (define name n) := by
  unfold define
  split
  · exact mildStep_pure _
  · exact mildStep_bind (mildStep_modify _) fun _ => mildStep_pure _

/-! ### Nodes -/

/-- The readers that go as deep as some fuel allows are mild. -/
structure MildAt (handles : Ordered Text) (fuel : Nat) : Prop where
  node : ∀ inFlow unindented, MildStep (node handles inFlow unindented fuel)
  blockItems : MildStep (blockItems handles fuel)
  hyphenItems : MildStep (hyphenItems handles fuel)
  blockEntries : MildStep (blockEntries handles fuel)
  blockValue : MildStep (blockValue handles fuel)
  flowItems : ∀ first, MildStep (flowItems handles first fuel)
  flowEntries : ∀ first, MildStep (flowEntries handles first fuel)
  flowValue : ∀ close, MildStep (flowValue handles close fuel)

variable {handles : Ordered Text} {fuel : Nat}

/-- A node that may be missing is read as nothing where some tokens stand. -/
theorem mildStep_unless {x : Reader Node} {f : Node → Reader β} (hx : MildStep x) (hf : ∀ n, MildStep (f n))
    (ts : List Token) :
    MildStep (do
      if ← sees ts then
        let n ← pure nothing
        f n
      else
        let n ← x
        f n) := by
  refine mildStep_bind (mildStep_sees ts) fun found => ?_
  split
  · exact mildStep_bind (mildStep_pure _) hf
  · exact mildStep_bind hx hf

theorem mildStep_node (h : MildAt handles fuel) (inFlow unindented : Bool) :
    MildStep (node handles inFlow unindented (fuel + 1)) := by
  unfold node
  refine mildStep_bind mildStep_peek? fun next => ?_
  split
  · refine mildStep_bind mildStep_skip fun _ => mildStep_bind mildStep_get fun r => ?_
    split
    · exact mildStep_pure _
    · exact mildStep_throw
  · refine mildStep_bind (mildStep_properties handles) ?_
    rintro ⟨name, tag⟩
    -- every node is read after its name is kept, and before it is noted under the name
    have hnamed : ∀ {γ : Type} {x : Reader γ} {f : γ → Node}, MildStep x →
        MildStep (do reserve name; define name (f (← x))) := fun hx =>
      mildStep_bind (mildStep_reserve name) fun _ => mildStep_bind hx fun _ => mildStep_define name _
    have hempty : ∀ {n : Node}, MildStep (do reserve name; define name n) :=
      mildStep_bind (mildStep_reserve name) fun _ => mildStep_define name _
    refine mildStep_bind mildStep_peek? fun next => ?_
    split
    · exact mildStep_bind mildStep_skip fun _ => hempty
    · exact mildStep_bind mildStep_skip fun _ => hnamed (h.flowItems true)
    · exact mildStep_bind mildStep_skip fun _ => hnamed (h.flowEntries true)
    · split
      · exact hnamed h.hyphenItems
      · split
        · exact mildStep_bind mildStep_skip fun _ => hnamed h.blockItems
        · split
          · exact mildStep_bind mildStep_skip fun _ => hnamed h.blockEntries
          · split
            · exact hempty
            · exact mildStep_throw

theorem mildStep_blockItems (h : MildAt handles fuel) : MildStep (blockItems handles (fuel + 1)) := by
  unfold blockItems
  refine mildStep_bind (mildStep_accept _) fun found => ?_
  split
  · exact mildStep_unless (h.node _ _) (fun _ => mildStep_bind h.blockItems fun _ => mildStep_pure _) _
  · exact mildStep_bind (mildStep_expect _) fun _ => mildStep_pure _

theorem mildStep_hyphenItems (h : MildAt handles fuel) : MildStep (hyphenItems handles (fuel + 1)) := by
  unfold hyphenItems
  refine mildStep_bind (mildStep_accept _) fun found => ?_
  split
  · exact mildStep_unless (h.node _ _) (fun _ => mildStep_bind h.hyphenItems fun _ => mildStep_pure _) _
  · exact mildStep_pure _

theorem mildStep_blockEntries (h : MildAt handles fuel) : MildStep (blockEntries handles (fuel + 1)) := by
  unfold blockEntries
  refine mildStep_bind (mildStep_accept _) fun found => ?_
  split
  · refine mildStep_unless (h.node _ _) (fun _ => mildStep_bind h.blockValue fun _ => ?_) _
    exact mildStep_bind h.blockEntries fun _ => mildStep_pure _
  · exact mildStep_bind (mildStep_expect _) fun _ => mildStep_pure _

theorem mildStep_blockValue (h : MildAt handles fuel) : MildStep (blockValue handles (fuel + 1)) := by
  unfold blockValue
  refine mildStep_bind (mildStep_accept _) fun found => ?_
  split
  · refine mildStep_bind (mildStep_sees _) fun missing => ?_
    split
    · exact mildStep_pure _
    · exact h.node _ _
  · exact mildStep_pure _

theorem mildStep_flowItems (h : MildAt handles fuel) (first : Bool) :
    MildStep (flowItems handles first (fuel + 1)) := by
  unfold flowItems
  refine mildStep_bind (mildStep_accept _) fun found => ?_
  split
  · exact mildStep_pure _
  · extract_lets paired after
    have hpaired : ∀ key, MildStep (paired key) := fun key =>
      mildStep_bind (h.flowValue _) fun _ => mildStep_bind (h.flowItems false) fun _ => mildStep_pure _
    have hafter : ∀ u, MildStep (after u) := by
      intro u
      refine mildStep_bind (mildStep_accept _) fun found => ?_
      split
      · exact mildStep_unless (h.node _ _) hpaired _
      · refine mildStep_bind (mildStep_accept _) fun found => ?_
        split
        · exact mildStep_pure _
        · exact mildStep_bind (h.node _ _) fun _ => mildStep_bind (h.flowItems false) fun _ => mildStep_pure _
    split
    · exact mildStep_bind (mildStep_expect _) hafter
    · exact hafter ()

theorem mildStep_flowEntries (h : MildAt handles fuel) (first : Bool) :
    MildStep (flowEntries handles first (fuel + 1)) := by
  unfold flowEntries
  refine mildStep_bind (mildStep_accept _) fun found => ?_
  split
  · exact mildStep_pure _
  · extract_lets paired after
    have hpaired : ∀ key, MildStep (paired key) := fun key =>
      mildStep_bind (h.flowValue _) fun _ => mildStep_bind (h.flowEntries false) fun _ => mildStep_pure _
    have hafter : ∀ u, MildStep (after u) := by
      intro u
      refine mildStep_bind (mildStep_accept _) fun found => ?_
      split
      · exact mildStep_unless (h.node _ _) hpaired _
      · refine mildStep_bind (mildStep_accept _) fun found => ?_
        split
        · exact mildStep_pure _
        · exact mildStep_bind (h.node _ _) fun _ => mildStep_bind (h.flowEntries false) fun _ => mildStep_pure _
    split
    · exact mildStep_bind (mildStep_expect _) hafter
    · exact hafter ()

theorem mildStep_flowValue (h : MildAt handles fuel) (close : Token) :
    MildStep (flowValue handles close (fuel + 1)) := by
  unfold flowValue
  refine mildStep_bind (mildStep_accept _) fun found => ?_
  split
  · refine mildStep_bind (mildStep_sees _) fun missing => ?_
    split
    · exact mildStep_pure _
    · exact h.node _ _
  · exact mildStep_pure _

/-- However deep the readers go, they refuse tokens as malformed only. -/
theorem mildAt (handles : Ordered Text) (fuel : Nat) : MildAt handles fuel := by
  induction fuel with
  | zero =>
    exact ⟨fun _ _ => mildStep_throw, mildStep_throw, mildStep_throw, mildStep_throw, mildStep_throw,
      fun _ => mildStep_throw, fun _ => mildStep_throw, fun _ => mildStep_throw⟩
  | succ fuel ih =>
    exact ⟨mildStep_node ih, mildStep_blockItems ih, mildStep_hyphenItems ih, mildStep_blockEntries ih,
      mildStep_blockValue ih, mildStep_flowItems ih, mildStep_flowEntries ih, mildStep_flowValue ih⟩

/-! ### Documents -/

theorem mild_declared (version : Bool) (handles : Ordered Text) (ts : List Token) :
    Mild (declared version handles ts) := by
  fun_induction declared version handles ts with
  | case1 => exact rfl
  | case2 version handles major rest h ih => exact ih
  | case3 => exact rfl
  | case4 version handles name lead rest h ih => exact ih
  | case5 version handles rest ih => exact ih
  | case6 => exact trivial

theorem mild_ofTokens? (ts : List Token) : Mild (ofTokens? ts) := by
  unfold ofTokens?
  extract_lets read
  have hread : ∀ handles ts, Mild (read handles ts) := by
    intro handles ts
    refine failsOnly_bind ((mildAt handles _).node false false _) ?_
    rintro ⟨n, after⟩
    dsimp only
    split
    · exact trivial
    · exact rfl
  split
  case h_1 => exact trivial
  case h_4 => exact hread _ _
  -- a document with a head, which begins with a directive or with the mark for its start
  all_goals
    refine failsOnly_bind (mild_declared _ _ _) ?_
    rintro ⟨handles, rest⟩
    dsimp only
    split
    · split
      · exact hread _ _
      · split
        · exact trivial
        · exact rfl
    · exact rfl

/-- A text without a node is malformed, or it holds an escape of eight digits. -/
theorem failsOnly_read (t : Text) : FailsOnly (Refuses t) (read t) :=
  failsOnly_bind (failsOnly_tokens t) fun ts => refused_of_usual (mild_ofTokens? ts)

end PageQuery.Yaml.Node
