import Mathlib
import CsiOperator.Proofs.FamilyHooks
/-!
Blank YAML text.

A text made of blank characters holds no structure: scanning it meets no indicator, so it
opens no collection and yields only the ends of the stream and plain scalars. Reading such a
text therefore hands its reader a scalar or nothing at all (`readDocument_blank`).

The scanner's helpers that move over characters leave the text, the tokens, the indentation and
the flow level alone (`Frame`); a scanner over blank text that has opened no collection and made
only quiet tokens (`Quiet`) stays so through every token it fetches (`fetchNext_quiet`), and so
through the whole scan (`tokenize_quiet`).
-/

namespace CsiOperator.Text

theorem trimBlank_isEmpty_iff {s : String} :
    (trimBlank s).isEmpty = true ↔ ∀ c ∈ s.toList, isBlank c = true := by
  rw [String.isEmpty_iff, trimBlank, String.ofList_eq_empty_iff, trimBlankList_eq,
    List.rdropWhile_eq_nil_iff, ← List.dropWhile_eq_nil_iff (l := s.toList)]
  constructor
  · intro h
    -- what is left after the leading blanks starts on a character that is not blank
    by_contra hne
    have hhead := List.head_dropWhile_not isBlank hne
    rw [h _ (List.head_mem hne)] at hhead
    cases hhead
  · intro h x hx
    rw [h] at hx
    cases hx

end CsiOperator.Text

namespace CsiOperator.Yaml

/-- The kinds of token that text without indicators yields: the ends of the stream and plain
scalars. -/
def TokenKind.isQuiet : TokenKind → Bool
  | .streamStart | .streamEnd | .scalar _ _ => true
  | _ => false

namespace Scanner

variable {s s' : Scanner}

/-- What moving over characters leaves alone: the text, the tokens made, the indentation and the
flow level. -/
structure Frame (s s' : Scanner) : Prop where
  src : s'.src = s.src
  tokens : s'.tokens = s.tokens
  indent : s'.indent = s.indent
  flowLevel : s'.flowLevel = s.flowLevel

theorem Frame.refl (s : Scanner) : Frame s s := ⟨rfl, rfl, rfl, rfl⟩

theorem Frame.trans {s₁ s₂ s₃ : Scanner} (h₁ : Frame s₁ s₂) (h₂ : Frame s₂ s₃) : Frame s₁ s₃ :=
  ⟨h₂.src.trans h₁.src, h₂.tokens.trans h₁.tokens, h₂.indent.trans h₁.indent,
    h₂.flowLevel.trans h₁.flowLevel⟩

theorem Frame.ite {c : Prop} [Decidable c] {a b : Scanner} (ha : Frame s a) (hb : Frame s b) :
    Frame s (if c then a else b) := by
  split
  · exact ha
  · exact hb

theorem frame_skip (s : Scanner) : Frame s s.skip := ⟨rfl, rfl, rfl, rfl⟩

theorem frame_skipLine (s : Scanner) : Frame s s.skipLine := by
  unfold skipLine
  exact .ite ⟨rfl, rfl, rfl, rfl⟩ (.ite ⟨rfl, rfl, rfl, rfl⟩ (.refl s))

theorem frame_read (s : Scanner) (acc : String) : Frame s (s.read acc).1 := frame_skip s

theorem frame_readLine (s : Scanner) (acc : String) : Frame s (s.readLine acc).1 := by
  unfold readLine
  dsimp only
  split
  · exact frame_skipLine s
  · split
    · exact frame_skipLine s
    · split
      · exact frame_skipLine s
      · exact Frame.refl s

theorem frame_setTopKey (s : Scanner) (k : SimpleKey) : Frame s (s.setTopKey k) :=
  ⟨rfl, rfl, rfl, rfl⟩

theorem Frame.simpleKeyAllowed {t : Scanner} (h : Frame s t) (b : Bool) :
    Frame s { t with simpleKeyAllowed := b } :=
  ⟨h.src, h.tokens, h.indent, h.flowLevel⟩

theorem frame_skipWhile (fuel : Nat) (p : Scanner → Bool) (s : Scanner) :
    Frame s (toNextToken.skipWhile fuel p s) := by
  induction fuel generalizing s with
  | zero => exact Frame.refl s
  | succ fuel ih =>
    unfold toNextToken.skipWhile
    exact .ite ((frame_skip s).trans (ih s.skip)) (.refl s)

theorem frame_toNextToken (s : Scanner) : Frame s s.toNextToken := by
  unfold toNextToken
  -- each round skips a byte order mark, blanks, a comment and at most one line break
  suffices h : ∀ fuel s, Frame s (toNextToken.go fuel s) from h _ s
  intro fuel
  induction fuel with
  | zero => exact Frame.refl
  | succ fuel ih =>
    intro s
    unfold toNextToken.go
    extract_lets s₁ s₂ s₃ s₄
    have h₁ : Frame s s₁ := .ite (frame_skip s) (.refl s)
    have h₂ : Frame s s₂ := h₁.trans (frame_skipWhile _ _ s₁)
    have h₃ : Frame s s₃ := .ite (h₂.trans (frame_skipWhile _ _ s₂)) h₂
    have h₄ : Frame s s₄ := h₃.trans (frame_skipLine s₃)
    refine .ite (Frame.trans ?_ (ih _)) h₃
    exact .ite (h₄.simpleKeyAllowed true) h₄

theorem frame_staleSimpleKeys (h : s.staleSimpleKeys = .ok s') : Frame s s' := by
  unfold staleSimpleKeys at h
  obtain ⟨keys, -, h⟩ := bind_eq_ok.1 h
  cases h
  exact ⟨rfl, rfl, rfl, rfl⟩

theorem frame_removeSimpleKey (h : s.removeSimpleKey = .ok s') : Frame s s' := by
  unfold removeSimpleKey at h
  dsimp only at h
  split at h
  · cases h
  · cases h
    exact frame_setTopKey _ _

theorem frame_saveSimpleKey (h : s.saveSimpleKey = .ok s') : Frame s s' := by
  unfold saveSimpleKey at h
  split at h
  · obtain ⟨s₁, h₁, h⟩ := bind_eq_ok.1 h
    cases h
    exact (frame_removeSimpleKey h₁).trans (frame_setTopKey _ _)
  · cases h
    exact Frame.refl s

theorem unrollIndent_eq_self (hindent : s.indent = -1) {column : Int} (hcolumn : -1 ≤ column) :
    s.unrollIndent column = s := by
  unfold unrollIndent
  split
  · rfl
  · simp only [unrollIndent.go, hindent]
    rw [if_neg (by omega)]

/-! ### Plain scalars -/

theorem frame_inner (fuel : Nat) : ∀ (s : Scanner) (text ws lead trail : String) (leading : Bool)
    (stop : Mark) r, plainScalar.inner fuel s text ws lead trail leading stop = .ok r →
    Frame s r.1 := by
  induction fuel with
  | zero =>
    intro s _ _ _ _ _ _ r h
    cases h
    exact .refl s
  | succ fuel ih =>
    intro s text ws lead trail leading stop r h
    unfold plainScalar.inner at h
    dsimp only at h
    split at h
    · cases h
      exact .refl s
    split at h
    · cases h
    split at h
    · cases h
      exact .refl s
    -- one more character of the line is read
    exact (frame_read s _).trans (ih _ _ _ _ _ _ _ r h)

theorem frame_blanks (fuel : Nat) : ∀ (s : Scanner) (ws lead trail : String) (leading : Bool) r,
    plainScalar.blanks fuel s ws lead trail leading = .ok r → Frame s r.1 := by
  induction fuel with
  | zero =>
    intro s _ _ _ _ r h
    cases h
    exact .refl s
  | succ fuel ih =>
    intro s ws lead trail leading r h
    unfold plainScalar.blanks at h
    dsimp only at h
    split at h
    · split at h
      · cases h
      split at h
      · exact (frame_skip s).trans (ih _ _ _ _ _ r h)
      · exact (frame_read s ws).trans (ih _ _ _ _ _ r h)
    split at h
    · -- a line break is read, into the first pending break or the further ones
      split at h
      · generalize hline : s.readLine trail = p at h
        obtain ⟨s₁, trail₁⟩ := p
        have hf : Frame s s₁ := by simpa only [hline] using frame_readLine s trail
        exact hf.trans (ih _ _ _ _ _ r h)
      · generalize hline : s.readLine "" = p at h
        obtain ⟨s₁, lead₁⟩ := p
        have hf : Frame s s₁ := by simpa only [hline] using frame_readLine s ""
        exact hf.trans (ih _ _ _ _ _ r h)
    · cases h
      exact .refl s

theorem frame_outer (indent : Int) (fuel : Nat) : ∀ (s : Scanner) (text ws lead trail : String)
    (leading : Bool) (stop : Mark) r,
    plainScalar.outer indent fuel s text ws lead trail leading stop = .ok r → Frame s r.1 := by
  induction fuel with
  | zero =>
    intro s _ _ _ _ _ _ r h
    unfold plainScalar.outer at h
    cases h
    exact .refl s
  | succ fuel ih =>
    intro s text ws lead trail leading stop r h
    unfold plainScalar.outer at h
    dsimp only at h
    split at h
    · cases h
      exact .refl s
    -- the non-blank characters of a line, then the blanks and breaks after them
    obtain ⟨⟨s₁, text₁, ws₁, lead₁, trail₁, leading₁, stop₁⟩, h₁, h⟩ := bind_eq_ok.1 h
    have f₁ := frame_inner _ _ _ _ _ _ _ _ _ h₁
    dsimp only at h
    split at h
    · cases h
      exact f₁
    obtain ⟨⟨s₂, ws₂, lead₂, trail₂, leading₂⟩, h₂, h⟩ := bind_eq_ok.1 h
    have f₂ := frame_blanks _ _ _ _ _ _ _ h₂
    dsimp only at h
    split at h
    · cases h
      exact f₁.trans f₂
    · exact f₁.trans (f₂.trans (ih _ _ _ _ _ _ _ r h))

/-! ### Scanning blank text -/

/-- A scanner over blank text that has opened no collection and made only quiet tokens. -/
structure Quiet (s : Scanner) : Prop where
  blank : ∀ c ∈ s.src, Text.isBlank c = true
  indent : s.indent = -1
  flowLevel : s.flowLevel = 0
  tokens : ∀ t ∈ s.tokens, t.kind.isQuiet = true

theorem Quiet.frame (hq : Quiet s) (hf : Frame s s') : Quiet s' :=
  ⟨hf.src ▸ hq.blank, hf.indent ▸ hq.indent, hf.flowLevel ▸ hq.flowLevel, hf.tokens ▸ hq.tokens⟩

theorem Quiet.push (hq : Quiet s) {kind : TokenKind} (hk : kind.isQuiet = true) (a b : Mark) :
    Quiet (s.push kind a b) := by
  refine ⟨hq.blank, hq.indent, hq.flowLevel, fun t ht => ?_⟩
  rcases Array.mem_push.1 ht with ht | rfl
  · exact hq.tokens t ht
  · exact hk

theorem Quiet.peek_blank (hq : Quiet s) (k : Nat) :
    s.peek k = '\x00' ∨ Text.isBlank (s.peek k) = true := by
  unfold peek
  rw [Array.getD_eq_getD_getElem?]
  cases hc : s.src[s.pos + k]? with
  | none => exact .inl rfl
  | some c => exact .inr (hq.blank c (Array.mem_of_getElem? hc))

theorem plainScalar_quiet (hq : Quiet s) (h : s.plainScalar = .ok s') : Quiet s' := by
  unfold plainScalar at h
  dsimp only at h
  cases ho : plainScalar.outer (s.indent + 1) (4 * s.src.size + 4) s "" "" "" "" false s.mark with
  | error e =>
    rw [ho] at h
    cases h
  | ok r =>
    obtain ⟨t, text, stop, leading⟩ := r
    rw [ho] at h
    have hqt := (hq.frame (frame_outer _ _ _ _ _ _ _ _ _ _ ho)).push
      (rfl : (TokenKind.scalar text .plain).isQuiet = true) s.mark stop
    cases h
    dsimp only
    -- a scalar that followed a line break leaves room for a simple key
    split
    · exact hqt.frame ((Frame.refl _).simpleKeyAllowed true)
    · exact hqt

theorem beq_eq_false_of_blank {c : Char} (hc : Text.isBlank c = true) {x : Char}
    (hx : Text.isBlank x = false) : (c == x) = false := by
  rw [beq_eq_false_iff_ne]
  rintro rfl
  rw [hx] at hc
  cases hc

theorem fetchNext_quiet (hq : Quiet s) (h : s.fetchNext = .ok s') : Quiet s' := by
  unfold fetchNext at h
  cases hstart : s.streamStartProduced with
  | false =>
    rw [hstart, Bool.not_false, if_pos rfl] at h
    cases h
    refine Quiet.push ?_ rfl _ _
    exact hq.frame ⟨rfl, rfl, hq.indent.symm, rfl⟩
  | true =>
  rw [hstart, Bool.not_true, if_neg Bool.false_ne_true] at h
  obtain ⟨s₁, h₁, h⟩ := bind_eq_ok.1 h
  have hq₁ : Quiet s₁ := hq.frame ((frame_toNextToken s).trans (frame_staleSimpleKeys h₁))
  extract_lets s₂ c flow atEnd atEnd' at h
  have hs₂ : s₂ = s₁ := unrollIndent_eq_self hq₁.indent (by omega)
  have hc : c = s₂.peek 0 := rfl
  clear_value s₂ c flow
  subst hs₂
  rcases hc ▸ hq₁.peek_blank 0 with rfl | hblank
  · -- the end of the text: the stream ends
    simp only [isZ, beq_self_eq_true, ↓reduceIte] at h
    obtain ⟨s₃, h₃, h⟩ := bind_eq_ok.1 h
    have hqEnd : Quiet atEnd := hq₁.frame (.ite ⟨rfl, rfl, rfl, rfl⟩ (.refl s₂))
    have hqEnd' : Quiet atEnd' := by
      rw [show atEnd' = atEnd from unrollIndent_eq_self hqEnd.indent le_rfl]
      exact hqEnd
    cases h
    refine Quiet.push ?_ rfl _ _
    exact (hqEnd'.frame (frame_removeSimpleKey h₃)).frame ⟨rfl, rfl, rfl, rfl⟩
  · have hne : ∀ x, Text.isBlank x = false → (c == x) = false := fun x hx =>
      beq_eq_false_of_blank hblank hx
    simp only [isZ, hne '\x00' (by decide), hne '%' (by decide), hne '-' (by decide),
      hne '.' (by decide), hne '[' (by decide), hne '\x7b' (by decide), hne ']' (by decide),
      hne '\x7d' (by decide), hne ',' (by decide), hne '?' (by decide), hne ':' (by decide),
      hne '*' (by decide), hne '&' (by decide), hne '!' (by decide), hne '|' (by decide),
      hne '>' (by decide), hne '\'' (by decide), hne '"' (by decide), Bool.and_false,
      Bool.false_and, Bool.or_false, Bool.false_eq_true, ↓reduceIte] at h
    -- any other blank starts a plain scalar, or is refused
    split at h
    · obtain ⟨s₃, h₃, h⟩ := bind_eq_ok.1 h
      exact plainScalar_quiet ((hq₁.frame (frame_saveSimpleKey h₃)).frame
        ((Frame.refl _).simpleKeyAllowed false)) h
    · cases h

end Scanner

theorem tokenize_go_quiet (fuel : Nat) :
    ∀ s : Scanner, s.Quiet → ∀ t ∈ (tokenize.go fuel s).1, t.kind.isQuiet = true := by
  induction fuel with
  | zero => exact fun s hq => hq.tokens
  | succ fuel ih =>
    intro s hq
    unfold tokenize.go
    split
    · exact hq.tokens
    split
    · exact ih _ (Scanner.fetchNext_quiet hq ‹_›)
    · exact hq.tokens

theorem tokenize_quiet {text : String} (hblank : ∀ c ∈ text.toList, Text.isBlank c = true) :
    ∀ t ∈ (tokenize text).1, t.kind.isQuiet = true := by
  unfold tokenize
  split
  · intro t ht
    simp at ht
  · dsimp only
    have hstart : ∀ chars : List Char, (∀ c ∈ chars, Text.isBlank c = true) →
        ({ src := chars.toArray } : Scanner).Quiet := fun chars h =>
      ⟨fun c hc => h c (List.mem_toArray.1 hc), rfl, rfl, fun t ht => by simp at ht⟩
    -- the characters scanned are the text's, without a leading byte order mark
    split
    · rename_i rest htext
      exact tokenize_go_quiet _ _ (hstart rest fun c hc => hblank c (htext ▸ List.mem_cons_of_mem _ hc))
    · exact tokenize_go_quiet _ _ (hstart _ hblank)

theorem TokenKind.isQuiet_iff {k : TokenKind} :
    k.isQuiet = true ↔ k = .streamStart ∨ k = .streamEnd ∨ ∃ text style, k = .scalar text style := by
  cases k <;> simp [TokenKind.isQuiet]

namespace Parse

variable {env : Env} {i : Nat} {t : Token}

theorem Env.get_quiet (hq : ∀ t ∈ env.toks, t.kind.isQuiet = true) (h : env.get i = .ok t) :
    t.kind.isQuiet = true := by
  unfold Env.get at h
  split at h
  · cases h
    exact hq t (Array.mem_of_getElem? ‹_›)
  · cases h

theorem properties_of_quiet (ht : env.get i = .ok t) (hq : t.kind.isQuiet = true) :
    properties env i = .ok (none, none, t.start, i) := by
  unfold properties
  rw [ht]
  rcases TokenKind.isQuiet_iff.1 hq with hk | hk | ⟨text, style, hk⟩ <;>
  · simp only [bind, Except.bind, hk]
    rfl

theorem node_of_quiet (fuel : Nat) (block : Bool) (an : Anchors) (ht : env.get i = .ok t)
    (hq : t.kind.isQuiet = true) (hend : t.kind ≠ .streamEnd) :
    (∃ text style, node env (fuel + 1) block false i an =
      .ok (.scalar text style none t.start) (i + 1) an) ∨
    ∃ n e, node env (fuel + 1) block false i an = .stop n e := by
  rcases TokenKind.isQuiet_iff.1 hq with hk | hk | ⟨text, style, hk⟩
  · -- the start of the stream is no node content
    right
    rw [node]
    simp only [ht, hk, properties_of_quiet ht hq, Option.map_none, Bool.false_and]
    exact ⟨_, _, rfl⟩
  · exact absurd hk hend
  · left
    refine ⟨text, style, ?_⟩
    rw [node]
    simp only [ht, hk, properties_of_quiet ht hq, Option.map_none, Bool.false_and]
    rfl

theorem stream_of_quiet (hq : ∀ t ∈ env.toks, t.kind.isQuiet = true) :
    (stream env).first = none ∨
      (∃ text style m, (stream env).first = some (.scalar text style none m)) ∨
      (stream env).error.isSome = true := by
  unfold stream
  cases h₀ : env.get 0 with
  | error e => exact .inl rfl
  | ok t₀ =>
  cases h₁ : env.get 1 with
  | error e => exact .inl rfl
  | ok t =>
  dsimp only
  have hquiet := Env.get_quiet hq h₁
  by_cases hend : t.kind = .streamEnd
  · exact .inl (by simp [hend])
  -- a quiet token other than the end is no directive and no document start: the document is
  -- the node it starts
  have hk : t.kind = .streamStart ∨ ∃ text style, t.kind = .scalar text style := by
    rcases TokenKind.isQuiet_iff.1 hquiet with hk | hk | hk
    · exact .inl hk
    · exact absurd hk hend
    · exact .inr hk
  rw [show 2 * env.toks.size + 8 = 2 * env.toks.size + 7 + 1 from rfl]
  rcases hk with hk | ⟨text, style, hk⟩ <;>
    simp only [hk, beq_iff_eq, reduceCtorEq, ↓reduceIte, Bool.not_false, List.contains_eq_mem,
      List.mem_cons, List.not_mem_nil, or_self, decide_false, Bool.and_self]
  all_goals
    rcases node_of_quiet (2 * env.toks.size + 7) true [] h₁ hquiet hend with
      ⟨text, style, hn⟩ | ⟨n, e, hn⟩
    · rw [hn]
      dsimp only
      split <;> exact .inr (.inl ⟨text, style, t.start, rfl⟩)
    · rw [hn]
      exact .inr (.inr rfl)

end Parse

theorem Stream.ofText_eq (text : String) : Stream.ofText text =
    Parse.stream { toks := (tokenize text).1,
                   tail := (tokenize text).2.getD { problem := "unexpected end of tokens" } } :=
  rfl

theorem readDocument_blank {α : Type} (r : YReader α) {text : String}
    (hblank : ∀ c ∈ text.toList, Text.isBlank c = true) {a : α}
    (h : readDocument r text = .ok a) : ∃ t style tag m, r (.scalar t style tag m) = .ok a := by
  have hst := @Parse.stream_of_quiet ⟨(tokenize text).1,
    (tokenize text).2.getD { problem := "unexpected end of tokens" }⟩ (tokenize_quiet hblank)
  rw [← Stream.ofText_eq] at hst
  unfold readDocument at h
  dsimp only at h
  generalize Stream.ofText text = st at h hst
  rcases hst with hfirst | ⟨t, style, m, hfirst⟩ | herr
  · -- no document: the reader reads an empty plain scalar
    rw [hfirst] at h
    dsimp only at h
    split at h
    · cases h
    · exact ⟨_, _, _, _, h⟩
  · -- one scalar: whatever follows it, the reader's answer is the text's
    rw [hfirst] at h
    dsimp only at h
    obtain ⟨a', ha', h⟩ := bind_eq_ok.1 h
    refine ⟨t, style, none, m, ?_⟩
    rw [ha']
    split at h
    · cases h
    split at h
    · cases h
    · cases h
      rfl
  · -- a syntax error refuses the text, after the reader has read what came before it
    obtain ⟨e, he⟩ := Option.isSome_iff_exists.1 herr
    rw [he] at h
    split at h
    · cases h
    · obtain ⟨a', -, h⟩ := bind_eq_ok.1 h
      cases h

end CsiOperator.Yaml
