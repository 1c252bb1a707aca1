import MeshAgent.Proofs.Terminal.Named
import MeshAgent.Terminal.Panel
import MeshAgent.Terminal.Table

/-!
# Which texts can be shown

Where tags are names of styles, only one thing can be wrong with a marked-up text: a tag closes a style
that is not open. More open styles never hurt, so that a tag which is read as text, since there is a
backslash before it, may be left out if it would have closed a style.
-/
namespace MeshAgent.Markup

/-- The body of a tag. -/
def Piece.body? : Piece → Option (List Char)
  | .text _ => none
  | .tag _ body => some body

/-- The bodies of the tags in a text. -/
def tags (cs : List Char) : List (List Char) := (pieces 0 [] cs).filterMap Piece.body?

/-- A tag that is the name of a style: it has no parameters, and its colours are not given by numbers. -/
def IsName (body : List Char) : Prop := '=' ∉ body ∧ '(' ∉ body

/-- All tags in a text are names. -/
def Named (cs : List Char) : Prop := ∀ body ∈ tags cs, IsName body

/-- The normal form of a name. -/
def nameOf (cs : List Char) : String := (Style.normal cs).toOption.getD ""

/-- The styles that are left when one ends; without a name it is the innermost one. -/
def close? (styles : List String) (name : List Char) : Option (List String) :=
  if name.isEmpty then styles.tail?
  else if nameOf name ∈ styles then some (styles.erase (nameOf name))
  else none

/-- The styles that are open behind a name, innermost first; `none` if it closes one that is not open. -/
def after? (styles : List String) (body : List Char) : Option (List String) :=
  match body with
  | '/' :: r => close? styles (Text.trim Text.isBlank r)
  | _ => some (nameOf body :: styles)

/-- Where `styles` are open in front of a text, each of its tags that closes a style closes an open one. -/
def Closes (styles : List String) (cs : List Char) : Prop := ((tags cs).foldlM after? styles).isSome

/-- The text closes only styles that it has opened. -/
def WellMarked (text : String) : Prop := Closes [] text.toList

/-- Something is shown if `p` holds; otherwise a tag that closes no open style is to blame. -/
def Shows {α : Type} (x : Except Failure α) (p : Prop) : Prop :=
  (∃ a, x = .ok a ∧ p) ∨ ∃ t, x = .error (.markup t) ∧ ¬ p

namespace Shows

variable {α β : Type} {p q : Prop} {x : Except Failure α} {f : α → Except Failure β}

lemma ok (a : α) : Shows (.ok a) True := .inl ⟨a, rfl, trivial⟩

lemma bind (hx : Shows x p) (hf : ∀ a, Shows (f a) q) : Shows (x >>= f) (p ∧ q) := by
  obtain ⟨a, rfl, hp⟩ | ⟨t, rfl, hp⟩ := hx
  · obtain ⟨b, hb, hq⟩ | ⟨t, ht, hq⟩ := hf a
    · exact .inl ⟨b, hb, hp, hq⟩
    · exact .inr ⟨t, ht, fun h => hq h.2⟩
  · exact .inr ⟨t, rfl, fun h => hp h.1⟩

lemma congr (hx : Shows x p) (h : p ↔ q) : Shows x q := by
  rw [Shows, ← h]
  exact hx

/-- What is made of what is shown does not matter. -/
lemma bind_ok {g : α → β} (hx : Shows x p) : Shows (x >>= fun a => .ok (g a)) p :=
  (hx.bind fun a => .ok (g a)).congr (and_iff_left trivial)

lemma mapM {p : α → Prop} {as : List α} (hf : ∀ a ∈ as, Shows (f a) (p a)) :
    Shows (as.mapM f) (∀ a ∈ as, p a) := by
  induction as with
  | nil => exact .inl ⟨[], rfl, by simp⟩
  | cons a as ih =>
    rw [List.mapM_cons, List.forall_mem_cons]
    have hrest := ih fun b hb => hf b (List.mem_cons_of_mem a hb)
    exact (hf a List.mem_cons_self).bind fun b => hrest.bind_ok

end Shows

variable {styles styles' : List String} {ps : List Piece} {cs body rest x y : List Char}

/-! ## Showing -/

lemma after?_closing (styles : List String) (r : List Char) :
    after? styles ('/' :: r) = close? styles (Text.trim Text.isBlank r) := rfl

lemma after?_opening (h : body.head? ≠ some '/') :
    after? styles body = some (nameOf body :: styles) := by
  unfold after?
  split
  · exact absurd rfl h
  · rfl

lemma normal_eq_nameOf {cs : List Char} (h : '(' ∉ cs) : Style.normal cs = .ok (nameOf cs) := by
  obtain ⟨name, hname⟩ := Style.normal_eq_ok h
  rw [nameOf, hname]
  rfl

/-- Tags without parameters. -/
def bare (styles : List String) : List Tag := styles.map fun name => { name }

lemma close_bare (name : String) (others : List Tag) :
    ({ name } : Tag).close others = .ok others := by
  rw [Tag.close, if_neg (by simp)]

lemma takeTag?_bare (name : String) (styles : List String) :
    takeTag? name (bare styles) =
      if name ∈ styles then some ({ name }, bare (styles.erase name)) else none := by
  induction styles with
  | nil => rfl
  | cons s rest ih =>
    rw [bare, List.map_cons, takeTag?]
    by_cases hs : s = name
    · simp [hs, bare]
    · rw [if_neg hs]
      change Option.map _ (takeTag? name (bare rest)) = _
      rw [ih]
      by_cases hmem : name ∈ rest <;> simp [hmem, hs, Ne.symm hs, bare]

lemma endStyle_bare {name : List Char} (h : '(' ∉ name) (position : Nat) (body : List Char)
    (styles : List String) :
    (∃ styles', close? styles name = some styles' ∧
      endStyle position body name (bare styles) = .ok (bare styles')) ∨
    close? styles name = none ∧
      ∃ t, endStyle position body name (bare styles) = .error (.markup t) := by
  rw [close?, endStyle.eq_def]
  split
  · cases styles with
    | nil => exact .inr ⟨rfl, _, rfl⟩
    | cons s rest => exact .inl ⟨rest, rfl, close_bare s (bare rest)⟩
  · rw [normal_eq_nameOf h]
    simp only [bind, Except.bind, takeTag?_bare]
    split
    · exact .inl ⟨_, rfl, close_bare _ _⟩
    · exact .inr ⟨rfl, _, rfl⟩

/-- A name leads to the styles behind it, or it closes one that is not open and nothing is shown. -/
lemma passTag_bare (h : IsName body) (position : Nat) (styles : List String) :
    (∃ styles', after? styles body = some styles' ∧
      passTag position body (bare styles) = .ok (bare styles')) ∨
    after? styles body = none ∧ ∃ t, passTag position body (bare styles) = .error (.markup t) := by
  obtain ⟨hparameters, hnumbers⟩ := h
  have hcut := Text.cutFirst_of_not_mem hparameters
  by_cases hbody : body.head? = some '/'
  · obtain ⟨r, rfl⟩ := List.head?_eq_some_iff.mp hbody
    have hname : '(' ∉ Text.trim Text.isBlank r := fun hmem =>
      hnumbers (List.mem_cons_of_mem _ (Text.trim_subset _ _ hmem))
    rw [after?_closing, passTag, hcut]
    exact endStyle_bare hname position _ styles
  · refine .inl ⟨_, after?_opening hbody, ?_⟩
    rw [passTag, hcut]
    split
    · rename_i r _ heq
      exact absurd (congrArg List.head? (Prod.mk.inj heq).1) hbody
    · rename_i heq
      obtain ⟨rfl, rfl⟩ := Prod.mk.inj heq
      rw [normal_eq_nameOf hnumbers]
      rfl

lemma showPieces_spec (styles : List String) {ps : List Piece}
    (hnamed : ∀ body ∈ ps.filterMap Piece.body?, IsName body) :
    (∃ out, showPieces (bare styles) ps = .ok out ∧
      ((ps.filterMap Piece.body?).foldlM after? styles).isSome) ∨
    ∃ t, showPieces (bare styles) ps = .error (.markup t) ∧
      (ps.filterMap Piece.body?).foldlM after? styles = none := by
  induction ps generalizing styles with
  | nil => exact .inl ⟨[], rfl, rfl⟩
  | cons p ps ih =>
    cases p with
    | text cs =>
      have hskip : (Piece.text cs :: ps).filterMap Piece.body? = ps.filterMap Piece.body? := rfl
      rw [hskip] at hnamed ⊢
      rw [showPieces]
      obtain ⟨out, hout, hfold⟩ | ⟨t, ht, hfold⟩ := ih styles hnamed
      · exact .inl ⟨shown cs ++ out, by rw [hout]; rfl, hfold⟩
      · exact .inr ⟨t, by rw [ht]; rfl, hfold⟩
    | tag position body =>
      have htake : (Piece.tag position body :: ps).filterMap Piece.body? =
          body :: ps.filterMap Piece.body? := rfl
      rw [htake, List.forall_mem_cons] at hnamed
      rw [htake, List.foldlM_cons, showPieces]
      obtain ⟨styles', hafter, hpass⟩ | ⟨hafter, t, ht⟩ := passTag_bare hnamed.1 position styles
      · rw [hafter, hpass]
        exact ih styles' hnamed.2
      · rw [hafter, ht]
        exact .inr ⟨t, rfl, rfl⟩

lemma readStyles_eq_ok {ps : List Piece}
    (hnamed : ∀ body ∈ ps.filterMap Piece.body?, IsName body) : readStyles ps = .ok () := by
  induction ps with
  | nil => rfl
  | cons p ps ih =>
    cases p with
    | text cs => exact ih hnamed
    | tag position body =>
      have htake : (Piece.tag position body :: ps).filterMap Piece.body? =
          body :: ps.filterMap Piece.body? := rfl
      rw [htake, List.forall_mem_cons] at hnamed
      have hnone : body.contains '(' = false := by simpa using hnamed.1.2
      rw [readStyles, hnone]
      exact ih hnamed.2

/-- A text whose tags are names can be shown if it closes only what it has opened, and nothing else can be
wrong with it. -/
theorem shows_render {text : String} (hnamed : Named text.toList) :
    Shows (render text.toList) (WellMarked text) := by
  rw [render]
  obtain ⟨out, hout, hfold⟩ | ⟨t, ht, hfold⟩ := showPieces_spec [] hnamed
  · refine .inl ⟨out, ?_, hfold⟩
    change showPieces [] (pieces 0 [] text.toList) = _ at hout
    rw [hout, readStyles_eq_ok hnamed]
    rfl
  · refine .inr ⟨t, ?_, ?_⟩
    · change showPieces [] (pieces 0 [] text.toList) = _ at ht
      rw [ht]
      rfl
    rw [WellMarked, Closes, tags, hfold]
    exact Bool.false_ne_true

/-! ## More open styles -/

lemma after?_sublist {opened : List String} (h : styles.Sublist opened)
    (hafter : after? styles body = some styles') :
    ∃ opened', after? opened body = some opened' ∧ styles'.Sublist opened' := by
  by_cases hbody : body.head? = some '/'
  · obtain ⟨name, rfl⟩ := List.head?_eq_some_iff.mp hbody
    rw [after?_closing, close?] at hafter ⊢
    split_ifs at hafter ⊢ with hempty hopened hmem hmem
    · cases styles with
      | nil => cases hafter
      | cons s rest =>
        obtain rfl := Option.some.inj hafter
        cases opened with
        | nil => exact absurd h (by simp)
        | cons o opened => exact ⟨opened, rfl, h.tail⟩
    · obtain rfl := Option.some.inj hafter
      exact ⟨_, rfl, h.erase _⟩
    · exact absurd (h.subset hmem) hopened
  · rw [after?_opening hbody] at hafter ⊢
    obtain rfl := Option.some.inj hafter
    exact ⟨_, rfl, h.cons_cons _⟩

lemma foldlM_after?_sublist {bodies : List (List Char)} {opened : List String}
    (h : styles.Sublist opened) (hfold : (bodies.foldlM after? styles).isSome) :
    (bodies.foldlM after? opened).isSome := by
  induction bodies generalizing styles opened with
  | nil => rfl
  | cons body bodies ih =>
    rw [List.foldlM_cons] at hfold ⊢
    cases hafter : after? styles body with
    | none => simp [hafter] at hfold
    | some styles' =>
      obtain ⟨opened', hopened, hsub⟩ := after?_sublist h hafter
      rw [hafter] at hfold
      rw [hopened]
      exact ih hsub hfold

/-- What can be shown where some styles are open can be shown where more are. -/
lemma Closes.mono {opened : List String} (h : styles.Sublist opened) (hcs : Closes styles cs) :
    Closes opened cs := foldlM_after?_sublist h hcs

/-! ## Tags in a text -/

lemma bodies_pieces (position : Nat) (before cs : List Char) :
    (pieces position before cs).filterMap Piece.body? = tags cs := by
  induction hn : cs.length using Nat.strongRecOn generalizing position before cs with
  | ind n ih =>
    rw [tags, pieces, pieces]
    simp only
    split
    · rename_i body rest htag
      have hlt : rest.length < n := by
        have hrest := length_tag? htag
        rw [List.length_drop] at hrest
        omega
      split
      · simp only [List.filterMap_cons, Piece.body?, ih _ hlt _ _ rest rfl]
      · simp only [List.filterMap_cons, Piece.body?, ih _ hlt _ _ rest rfl]
    · split
      · rfl
      · rw [ih _ (by simp [← hn]) _ _ _ rfl, ih _ (by simp [← hn]) _ _ _ rfl]

@[simp] lemma tags_nil : tags [] = [] := by
  rw [tags, pieces]
  rfl

lemma drop_length_takeWhile (p : Char → Bool) (cs : List Char) :
    cs.drop (cs.takeWhile p).length = cs.dropWhile p := by
  nth_rewrite 2 [← List.takeWhile_append_dropWhile (p := p) (l := cs)]
  exact List.drop_left

/-- A tag behind an odd number of backslashes is read as text. -/
lemma tags_of_tag (h : tag? (cs.dropWhile (· = '\\')) = some (body, rest)) :
    tags cs = if (cs.takeWhile (· = '\\')).length % 2 = 1 then tags rest else body :: tags rest := by
  rw [← drop_length_takeWhile] at h
  rw [tags, pieces]
  simp only
  split
  · rename_i htag
    obtain ⟨rfl, rfl⟩ := Prod.mk.inj (Option.some.inj (htag.symm.trans h))
    split <;> simp only [List.filterMap_cons, Piece.body?, bodies_pieces]
  · rename_i hnone
    simp [hnone] at h

lemma tags_of_text {c : Char} (h : tag? ((c :: cs).dropWhile (· = '\\')) = none) :
    tags (c :: cs) = tags cs := by
  rw [← drop_length_takeWhile] at h
  rw [tags, pieces]
  simp only
  split
  · rename_i htag
    simp [htag] at h
  · exact bodies_pieces _ _ _

lemma tag?_eq_none (h : cs.head? ≠ some '[') : tag? cs = none := by
  unfold tag?
  split
  · exact absurd rfl h
  · rfl

lemma tag?_eq_some {c : Char} (hc : startsTag c = true) (hbody : ∀ x ∈ body, x ≠ ']' ∧ x ≠ '[') :
    tag? ('[' :: c :: body ++ ']' :: rest) = some (c :: body, rest) := by
  have hwhile : (body ++ ']' :: rest).takeWhile (fun x => x ≠ ']' && x ≠ '[') = body := by
    rw [List.takeWhile_append_of_pos (fun x hx => by simpa using hbody x hx)]
    simp
  simp only [tag?, List.cons_append, hc, if_true, hwhile, List.drop_left]

lemma eq_of_tag? (h : tag? cs = some (body, rest)) : cs = '[' :: body ++ ']' :: rest := by
  unfold tag? at h
  split at h
  · rename_i c r
    split at h
    · simp only at h
      split at h
      · rename_i rest' hdrop
        obtain ⟨rfl, rfl⟩ := Prod.mk.inj (Option.some.inj h)
        rw [List.cons_append, List.cons_append, ← hdrop, drop_length_takeWhile,
          List.takeWhile_append_dropWhile]
      · cases h
    · cases h
  · cases h

/-- No backslash stands in front of a tag. -/
lemma dropWhile_of_tag (h : tag? cs = some (body, rest)) :
    cs.dropWhile (· = '\\') = cs ∧ cs.takeWhile (· = '\\') = [] := by
  rw [eq_of_tag? h]
  exact ⟨rfl, rfl⟩

lemma dropWhile_append_of_all (hx : ∀ c ∈ x, c = '\\') :
    (x ++ y).dropWhile (· = '\\') = y.dropWhile (· = '\\') :=
  List.dropWhile_append_of_pos fun c hc => by simpa using hx c hc

lemma head?_dropWhile_append (hx : ¬ ∀ c ∈ x, c = '\\') :
    ∃ c ∈ x, ((x ++ y).dropWhile (· = '\\')).head? = some c := by
  induction x with
  | nil => exact absurd (by simp) hx
  | cons c x ih =>
    by_cases hc : c = '\\'
    · have hrest : ¬ ∀ c ∈ x, c = '\\' := fun hall => hx (List.forall_mem_cons.mpr ⟨hc, hall⟩)
      obtain ⟨d, hd, hhead⟩ := ih hrest
      exact ⟨d, List.mem_cons_of_mem _ hd, by simpa [hc] using hhead⟩
    · exact ⟨c, List.mem_cons_self, by simp [hc]⟩

/-- A text without opening brackets that is not all backslashes begins with no tag. -/
lemma tags_cons_append {c : Char} (hx : '[' ∉ c :: x) (hall : ¬ ∀ d ∈ c :: x, d = '\\') :
    tags (c :: x ++ y) = tags (x ++ y) := by
  obtain ⟨d, hd, hhead⟩ := head?_dropWhile_append (y := y) hall
  rw [List.cons_append] at hhead ⊢
  refine tags_of_text (tag?_eq_none ?_)
  rw [hhead]
  rintro ⟨⟩
  exact hx hd

/-- Text without opening brackets has no tags, unless what follows belongs to it. -/
lemma tags_append (hx : '[' ∉ x) (hy : y.head? ≠ some '[') (hslash : y.head? ≠ some '\\') :
    tags (x ++ y) = tags y := by
  have hdrop : y.dropWhile (· = '\\') = y := by
    cases y with
    | nil => rfl
    | cons d y => exact List.dropWhile_cons_of_neg (by simpa using hslash)
  induction x with
  | nil => rfl
  | cons c x ih =>
    rw [← ih fun h => hx (List.mem_cons_of_mem _ h)]
    by_cases hall : ∀ d ∈ c :: x, d = '\\'
    · have hnone : tag? ((c :: x ++ y).dropWhile (· = '\\')) = none := by
        rw [dropWhile_append_of_all hall, hdrop]
        exact tag?_eq_none hy
      exact tags_of_text hnone
    · exact tags_cons_append hx hall

/-- A tag behind a text without opening brackets is a tag, or part of the text. -/
lemma tags_append_tag (hx : '[' ∉ x) (hy : tag? y = some (body, rest)) :
    tags (x ++ y) = body :: tags rest ∨ tags (x ++ y) = tags rest := by
  induction x with
  | nil =>
    obtain ⟨hdrop, htake⟩ := dropWhile_of_tag hy
    rw [List.nil_append, tags_of_tag (hdrop.symm ▸ hy), htake]
    exact .inl rfl
  | cons c x ih =>
    by_cases hall : ∀ d ∈ c :: x, d = '\\'
    · have htag : tag? ((c :: x ++ y).dropWhile (· = '\\')) = some (body, rest) := by
        rw [dropWhile_append_of_all hall, (dropWhile_of_tag hy).1]
        exact hy
      rw [tags_of_tag htag]
      split
      · exact .inr rfl
      · exact .inl rfl
    · rw [tags_cons_append hx hall]
      exact ih fun h => hx (List.mem_cons_of_mem _ h)

/-- Where there is no backslash, a tag is one. -/
lemma tags_tag (h : tag? cs = some (body, rest)) : tags cs = body :: tags rest := by
  obtain ⟨hdrop, htake⟩ := dropWhile_of_tag h
  rw [tags_of_tag (hdrop.symm ▸ h), htake]
  rfl

lemma infix_of_mem_tags (h : body ∈ tags cs) : ('[' :: body ++ [']']) <:+: cs := by
  induction hn : cs.length using Nat.strongRecOn generalizing cs with
  | ind n ih =>
    cases htag : tag? (cs.dropWhile (· = '\\')) with
    | some p =>
      obtain ⟨body', rest⟩ := p
      have hcut := List.takeWhile_append_dropWhile (p := (· = '\\')) (l := cs)
      rw [eq_of_tag? htag] at hcut
      generalize cs.takeWhile (· = '\\') = front at hcut
      have hlt : rest.length < n := by
        rw [← hn, ← hcut]
        simp only [List.length_append, List.length_cons]
        omega
      have hrest : body = body' ∨ body ∈ tags rest := by
        rw [tags_of_tag htag] at h
        split at h
        · exact .inr h
        · exact List.mem_cons.mp h
      rcases hrest with rfl | hmem
      · exact ⟨front, rest, by rw [← hcut]; simp⟩
      · have hsuffix : rest <:+ cs := ⟨front ++ '[' :: body' ++ [']'], by rw [← hcut]; simp⟩
        exact (ih _ hlt hmem rfl).trans hsuffix.isInfix
    | none =>
      cases cs with
      | nil => simp at h
      | cons c cs =>
        rw [tags_of_text htag] at h
        exact (ih _ (by simp [← hn]) h rfl).trans (List.suffix_cons c cs).isInfix

/-! ## Texts that can be shown -/

/-- Without a closing tag nothing can be wrong. -/
lemma closes_of_opening (h : ∀ body ∈ tags cs, body.head? ≠ some '/') : Closes styles cs := by
  rw [Closes]
  generalize tags cs = bodies at h
  induction bodies generalizing styles with
  | nil => rfl
  | cons body bodies ih =>
    rw [List.foldlM_cons, after?_opening (h body List.mem_cons_self)]
    exact ih fun b hb => h b (List.mem_cons_of_mem _ hb)

/-- All tags in the text are names, and it closes only open styles. -/
def Clean (styles : List String) (cs : List Char) : Prop := Named cs ∧ Closes styles cs

lemma Clean.of_tags_eq (h : tags x = tags y) (hy : Clean styles y) : Clean styles x := by
  rw [Clean, Named, Closes, h]
  exact hy

lemma tags_of_unbracketed (h : '[' ∉ cs) : tags cs = [] :=
  List.eq_nil_iff_forall_not_mem.mpr fun _ hbody =>
    absurd ((infix_of_mem_tags hbody).subset List.mem_cons_self) h

lemma clean_of_unbracketed (h : '[' ∉ cs) : Clean styles cs := by
  rw [Clean, Named, Closes, tags_of_unbracketed h]
  exact ⟨List.forall_mem_nil _, rfl⟩

lemma named_of_unbracketed (h : '[' ∉ cs) : Named cs := (@clean_of_unbracketed [] cs h).1

/-- A text that begins with the end of a style cannot be shown where none is open. -/
lemma not_closes_of_closing {name : List Char} (h : tag? cs = some ('/' :: name, rest)) :
    ¬ Closes [] cs := by
  have hnone : ∀ name, close? [] name = none := fun name => by simp [close?]
  rw [Closes, tags_tag h, List.foldlM_cons, after?_closing, hnone]
  exact Bool.false_ne_true

/-- A part of a text that leaves the styles behind it as open as they were in front of it. -/
def Neutral (cs : List Char) : Prop :=
  ∀ styles rest, Clean styles rest → Clean styles (cs ++ rest)

namespace Neutral

lemma append (hx : Neutral x) (hy : Neutral y) : Neutral (x ++ y) := by
  intro styles rest h
  rw [List.append_assoc]
  exact hx _ _ (hy _ _ h)

/-- Text without brackets and backslashes. -/
lemma plain (hx : '[' ∉ x) (hslash : '\\' ∉ x) : Neutral x := by
  intro styles rest h
  induction x with
  | nil => exact h
  | cons c x ih =>
    rw [List.mem_cons, not_or] at hx hslash
    have htags : tags (c :: (x ++ rest)) = tags (x ++ rest) := by
      refine tags_of_text (tag?_eq_none ?_)
      rw [List.dropWhile_cons_of_neg (by simpa using Ne.symm hslash.1)]
      simpa using Ne.symm hx.1
    exact (ih hx.2 hslash.2).of_tags_eq htags

/-- Text that ends before the next tag begins. -/
lemma ended (hx : '[' ∉ x) {c : Char} (hc : c ≠ '[') (hslash : c ≠ '\\') : Neutral (x ++ [c]) := by
  intro styles rest h
  have htags : tags (x ++ [c] ++ rest) = tags ([c] ++ rest) := by
    rw [List.append_assoc]
    exact tags_append hx (by simpa using hc) (by simpa using hslash)
  exact (plain (by simpa using Ne.symm hc) (by simpa using Ne.symm hslash) styles rest h).of_tags_eq
    htags

/-- A text in a style. The end of the style may be part of the text, which leaves the style open. -/
lemma styled {c : Char} {style : List Char} (hc : startsTag c = true) (hopen : c ≠ '/')
    (hname : IsName (c :: style)) (hstyle : ∀ d ∈ style, d ≠ ']' ∧ d ≠ '[') (hx : '[' ∉ x) :
    Neutral ('[' :: c :: style ++ ']' :: (x ++ ['[', '/', ']'])) := by
  intro styles rest ⟨hnamed, hcloses⟩
  have hopening : tag? ('[' :: c :: style ++ ']' :: (x ++ ('[' :: '/' :: ']' :: rest))) =
      some (c :: style, x ++ ('[' :: '/' :: ']' :: rest)) := tag?_eq_some hc hstyle
  have hclosing : tag? ('[' :: '/' :: ']' :: rest) = some (['/'], rest) := by
    change tag? ('[' :: '/' :: [] ++ ']' :: rest) = _
    exact tag?_eq_some (by decide) (List.forall_mem_nil _)
  have hshape : '[' :: c :: style ++ ']' :: (x ++ ['[', '/', ']']) ++ rest =
      '[' :: c :: style ++ ']' :: (x ++ ('[' :: '/' :: ']' :: rest)) := by simp
  have hslash : IsName ['/'] := ⟨by decide, by decide⟩
  rw [hshape, Clean, Named, Closes, tags_tag hopening, List.foldlM_cons,
    after?_opening (by simpa using hopen), List.forall_mem_cons]
  change (_ ∧ _) ∧ (List.foldlM after? (_ :: styles) _).isSome
  rcases tags_append_tag hx hclosing with htags | htags
  · rw [htags, List.forall_mem_cons]
    exact ⟨⟨hname, hslash, hnamed⟩, hcloses⟩
  · rw [htags]
    exact ⟨⟨hname, hnamed⟩, hcloses.mono (List.sublist_cons_self _ _)⟩

lemma clean (h : Neutral cs) : Clean styles cs := by
  have hend : Clean styles [] := by
    rw [Clean, Named, Closes, tags_nil]
    exact ⟨List.forall_mem_nil _, rfl⟩
  simpa using h styles [] hend

end Neutral

end MeshAgent.Markup

namespace MeshAgent

open Markup

/-- A table is shown if its headings and its cells can be shown. -/
lemma Table.shows_render (limit : Nat) {columns : List Column}
    (hnamed : ∀ c ∈ columns, ∀ s ∈ c.heading :: c.cells, Named s.toList) :
    Shows (Table.render limit columns) (∀ c ∈ columns, ∀ s ∈ c.heading :: c.cells, WellMarked s) :=
  (Shows.mapM fun c hc => Shows.mapM fun s hs =>
    Markup.shows_render (hnamed c hc s hs)).bind_ok

/-- A panel is shown if its title and its text can be shown. -/
lemma Panel.shows_render (limit : Nat) {title body : String} (htitle : Named title.toList)
    (hbody : Named body.toList) :
    Shows (Panel.render limit title body) (WellMarked title ∧ WellMarked body) :=
  (Markup.shows_render htitle).bind fun _ => (Markup.shows_render hbody).bind_ok

end MeshAgent
