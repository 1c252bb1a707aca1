import MeshAgent.CommandLine.Run
import MeshAgent.Proofs.Address.Printed
import MeshAgent.Proofs.Key.Spelled
import MeshAgent.Proofs.Terminal.Marked

/-!
# What can be printed

Numbers, ages, states and keys never spoil what is printed. Names, endpoints and messages do if they close
a style that they have not opened, and they never do without a bracket in them. What is said of texts with
brackets is said of those whose tags are names.
-/
namespace MeshAgent

open Markup

lemma wellMarked_of_unbracketed {text : String} (h : '[' ∉ text.toList) : WellMarked text :=
  (clean_of_unbracketed h).2

/-! ## Texts without brackets -/

lemma bracket_not_mem_write (n : Nat) : '[' ∉ Decimal.write n := Decimal.not_mem_write rfl n

lemma bracket_not_mem_shown (n : Int) : '[' ∉ (shown n).toList := by
  rw [shown, String.toList_ofList, Decimal.writeInt]
  split
  · rw [List.mem_cons, not_or]
    exact ⟨by decide, bracket_not_mem_write _⟩
  · exact bracket_not_mem_write _

lemma bracket_not_mem_age (now then_ : Int) : '[' ∉ (Status.age now then_).toList := by
  unfold Status.age
  simp only
  split_ifs <;> simp [bracket_not_mem_shown]

/-- The text of a key has no bracket. -/
lemma bracket_not_mem_format (key : Bytes) : '[' ∉ (Key.format key).toList := by
  obtain ⟨data, pads, hform, -⟩ := Base64.decode_eq_ok_iff.mp (Base64.decode_encode key)
  rw [Key.format, hform.toList, List.mem_append, not_or]
  refine ⟨fun h => ?_, fun h => ?_⟩
  · exact absurd (hform.mem _ h) (by decide +kernel)
  · exact absurd (List.eq_of_mem_replicate h) (by decide)

namespace Address

lemma mem_writeBits4 {bits : BitVec 32} {c : Char} (h : c ∈ writeBits4 bits) :
    c = '.' ∨ Decimal.isDigit c = true := by
  rcases Text.mem_join h with h | ⟨p, hp, hc⟩
  · exact .inl h
  · obtain ⟨n, -, rfl⟩ := List.mem_map.mp hp
    exact .inr (Decimal.isDigit_of_mem_write hc)

/-- The prefix of an address begins at its only slash, and only the name of a zone has brackets. -/
lemma write_eq (a : Address) : ∃ host len, a.write = host ++ '/' :: Decimal.write len ∧
    '/' ∉ host ∧ ('[' ∈ host → ∃ b : Address6, a = .v6 b ∧ '[' ∈ writeZone b.zone) := by
  cases a with
  | v4 a =>
    refine ⟨writeBits4 a.bits, a.prefixLength, rfl, fun h => ?_, fun h => ?_⟩
    · rcases mem_writeBits4 h with h | h <;> exact absurd h (by decide)
    · rcases mem_writeBits4 h with h | h <;> exact absurd h (by decide)
  | v6 a =>
    refine ⟨_, a.prefixLength, write_v6 a, slash_not_mem_host6 a, fun h => ⟨a, rfl, ?_⟩⟩
    have hdigit : ∀ k : Fin 16, Text.hexDigit k ≠ '[' := by decide
    exact (List.mem_append.mp h).resolve_left
      (not_mem_writeBits6 a.bits (by decide) fun d hd => hdigit ⟨d, hd⟩)

/-- What stands behind a slash is part of what stands behind the first one. -/
lemma suffix_of_slash {host len before behind : List Char} (hhost : '/' ∉ host)
    (h : host ++ '/' :: len = before ++ '/' :: behind) : behind <:+ len := by
  induction host generalizing before with
  | nil =>
    cases before with
    | nil => exact (List.cons.inj h).2 ▸ List.suffix_refl _
    | cons c before => exact ⟨before ++ ['/'], by simpa using (List.cons.inj h).2.symm⟩
  | cons c host ih =>
    rw [List.mem_cons, not_or] at hhost
    cases before with
    | nil => exact absurd (List.cons.inj h).1.symm hhost.1
    | cons d before => exact ih hhost.2 (List.cons.inj h).2

/-- An address can be shown whatever its zone is called: no style ends in it. -/
lemma wellMarked_text (a : Address) : WellMarked a.text := by
  obtain ⟨host, len, hwrite, hhost, -⟩ := a.write_eq
  refine closes_of_opening fun body hbody hclosing => ?_
  obtain ⟨name, rfl⟩ := List.head?_eq_some_iff.mp hclosing
  obtain ⟨before, behind, htext⟩ := infix_of_mem_tags hbody
  rw [text, String.toList_ofList, hwrite] at htext
  have hcut : host ++ '/' :: Decimal.write len =
      (before ++ ['[']) ++ '/' :: (name ++ ']' :: behind) := by simpa using htext.symm
  have hbracket := (suffix_of_slash hhost hcut).subset (a := ']') (by simp)
  exact Decimal.not_mem_write rfl len hbracket

lemma subset_of_cutFirst (mark : Char) (cs : List Char) :
    (Text.cutFirst mark cs).1 ⊆ cs ∧ ∀ b, (Text.cutFirst mark cs).2 = some b → b ⊆ cs := by
  induction cs with
  | nil => exact ⟨List.nil_subset _, nofun⟩
  | cons c r ih =>
    rw [Text.cutFirst]
    split
    · refine ⟨List.nil_subset _, fun b hb => ?_⟩
      obtain rfl := Option.some.inj hb
      exact List.subset_cons_self _ _
    · exact ⟨List.cons_subset_cons _ ih.1, fun b hb => List.subset_cons_of_subset _ (ih.2 b hb)⟩

/-- The name of the zone is part of the text. -/
lemma zone_subset {cs : List Char} {a : Address6} (h : read6? cs = some a) :
    writeZone a.zone ⊆ '%' :: cs := by
  simp only [read6?, Option.bind_eq_bind, Option.bind_eq_some_iff] at h
  obtain ⟨⟨host, len⟩, hcut, zone, hzone, bits, -, ha⟩ := h
  have hsame : a.zone = zone := by
    cases len with
    | none => exact (Option.some.inj ha) ▸ rfl
    | some t =>
      obtain ⟨len, -, ha⟩ := Option.bind_eq_some_iff.mp ha
      exact (Option.some.inj ha) ▸ rfl
  rw [hsame]
  have hhost : host ⊆ cs := by
    have hsub := (subset_of_cutFirst '/' cs).1
    rw [cutPrefix?] at hcut
    split at hcut
    · rename_i hslash
      obtain ⟨rfl, -⟩ := Prod.mk.inj (Option.some.inj hcut)
      simpa [hslash] using hsub
    · rename_i hslash
      split at hcut
      · cases hcut
      · obtain ⟨rfl, -⟩ := Prod.mk.inj (Option.some.inj hcut)
        simpa [hslash] using hsub
  have hname := (subset_of_cutFirst '%' host).2
  cases hmark : (Text.cutFirst '%' host).2 with
  | none =>
    rw [hmark, readZone?] at hzone
    obtain rfl := Option.some.inj hzone
    exact List.nil_subset _
  | some name =>
    rw [hmark, readZone?, Zone.ofString?] at hzone
    split at hzone
    · obtain rfl := Option.some.inj hzone
      rw [writeZone, String.toList_ofList]
      exact List.cons_subset_cons _ (List.Subset.trans (hname name hmark) hhost)
    · cases hzone

/-- Reading an address makes no brackets. -/
lemma bracket_not_mem_text {t : String} {a : Address} (h : parse t = .ok a)
    (ht : '[' ∉ t.toList) : '[' ∉ a.text.toList := by
  obtain ⟨host, len, hwrite, -, hbracket⟩ := a.write_eq
  rw [text, String.toList_ofList, hwrite, List.mem_append, List.mem_cons, not_or, not_or]
  refine ⟨fun hhost => ?_, by decide, bracket_not_mem_write len⟩
  obtain ⟨b, rfl, hzone⟩ := hbracket hhost
  have hread : ofText? t = some (.v6 b) := by
    rw [parse] at h
    split at h
    · rename_i hsome
      rw [hsome, Except.ok.inj h]
    · cases h
  rw [ofText?, read?] at hread
  split at hread
  · cases hread
  · obtain ⟨a, ha, hv6⟩ := Option.map_eq_some_iff.mp hread
    obtain rfl := Address.v6.inj hv6
    have hmem := zone_subset ha hzone
    rw [List.mem_cons] at hmem
    exact ht (hmem.resolve_left (by decide))

end Address

/-! ## Words for states -/

namespace Status

lemma toList_styled (style body : String) :
    (styled style body).toList = '[' :: style.toList ++ ']' :: (body.toList ++ ['[', '/', ']']) := by
  simp [styled]

/-- A style whose name makes a tag. -/
structure IsStyle (style : String) : Prop where
  opens : ∃ c r, style.toList = c :: r ∧ startsTag c = true ∧ c ≠ '/'
  name : IsName style.toList
  plain : ∀ c ∈ style.toList, c ≠ ']' ∧ c ≠ '['

lemma neutral_styled {style body : String} (hstyle : IsStyle style) (hbody : '[' ∉ body.toList) :
    Neutral (styled style body).toList := by
  obtain ⟨⟨c, r, hlist, hc, hopen⟩, hname, hplain⟩ := hstyle
  rw [hlist] at hname hplain
  rw [toList_styled, hlist]
  exact Neutral.styled hc hopen hname (List.forall_mem_cons.mp hplain).2 hbody

lemma isStyle_dim : IsStyle "dim" :=
  ⟨⟨'d', _, rfl, by decide, by decide⟩, ⟨by decide, by decide⟩, by simp⟩
lemma isStyle_bold : IsStyle "bold" :=
  ⟨⟨'b', _, rfl, by decide, by decide⟩, ⟨by decide, by decide⟩, by simp⟩
lemma isStyle_cyan : IsStyle "cyan" :=
  ⟨⟨'c', _, rfl, by decide, by decide⟩, ⟨by decide, by decide⟩, by simp⟩
lemma isStyle_red : IsStyle "bold red" :=
  ⟨⟨'b', _, rfl, by decide, by decide⟩, ⟨by decide, by decide⟩, by simp⟩
lemma isStyle_yellow : IsStyle "bold yellow" :=
  ⟨⟨'b', _, rfl, by decide, by decide⟩, ⟨by decide, by decide⟩, by simp⟩
lemma isStyle_green : IsStyle "bold green" :=
  ⟨⟨'b', _, rfl, by decide, by decide⟩, ⟨by decide, by decide⟩, by simp⟩

lemma neutral_markup (last : Option Entry) : Neutral (markup last).toList := by
  cases last with
  | none => exact neutral_styled isStyle_dim (by decide)
  | some e =>
    have htitle : '[' ∉ e.state.title.toList := by cases e.state <;> decide
    rw [markup]
    split_ifs
    · refine neutral_styled isStyle_red ?_
      cases e.operation <;> decide
    · refine neutral_styled isStyle_yellow ?_
      rw [String.toList_append, List.mem_append, not_or]
      exact ⟨htitle, by decide⟩
    · exact neutral_styled isStyle_green htitle

end Status

/-! ## Printouts -/

namespace CommandLine.Outcome

variable {p q : Prop} {x : Except Failure String} {rest : View.Printout}

/-- Everything is printed if `p` holds; otherwise a tag is to blame. -/
def Prints (o : Outcome) (p : Prop) : Prop :=
  (o.exitCode = 0 ∧ o.exception = none ∧ p) ∨
    (o.exitCode = 1 ∧ (∃ t, o.exception = some (.markup t)) ∧ ¬ p)

lemma prints_nil : (ofPrintout 0 []).Prints True := .inl ⟨rfl, rfl, trivial⟩

lemma prints_cons (hx : Shows x p) (hrest : (ofPrintout 0 rest).Prints q) :
    (ofPrintout 0 (x :: rest)).Prints (p ∧ q) := by
  obtain ⟨s, rfl, hp⟩ | ⟨t, rfl, hp⟩ := hx
  · obtain ⟨hcode, hnone, hq⟩ | ⟨hcode, hsome, hq⟩ := hrest
    · exact .inl ⟨hcode, hnone, hp, hq⟩
    · exact .inr ⟨hcode, hsome, fun h => hq h.2⟩
  · exact .inr ⟨rfl, ⟨t, rfl⟩, fun h => hp h.1⟩

lemma Prints.congr {o : Outcome} (ho : o.Prints p) (h : p ↔ q) : o.Prints q := by
  rw [Prints, ← h]
  exact ho

lemma Prints.exitCode_eq {o : Outcome} (ho : o.Prints p) (hp : p) : o.exitCode = 0 := by
  obtain ⟨hcode, -⟩ | ⟨-, -, hnot⟩ := ho
  · exact hcode
  · exact absurd hp hnot

lemma exitCode_ofPrintout_one (p : View.Printout) : (ofPrintout 1 p).exitCode = 1 := by
  induction p with
  | nil => rfl
  | cons x rest ih =>
    cases x with
    | ok s => exact ih
    | error f => rfl

end CommandLine.Outcome

namespace View

open CommandLine Outcome

lemma shows_text (limit : Nat) {s : String} (hnamed : Named s.toList) :
    Shows (text limit s) (WellMarked s) :=
  (shows_render hnamed).bind_ok

lemma shows_panel (limit : Nat) {title : String} {lines : List String} (htitle : Named title.toList)
    (hlines : Named (String.intercalate "\n" lines).toList) :
    Shows (panel limit title lines)
      (WellMarked title ∧ WellMarked (String.intercalate "\n" lines)) :=
  (Panel.shows_render limit htitle hlines).bind_ok

lemma shows_blankLine : Shows blankLine True := .ok _

/-- All tags in the column are names, and it can be shown if `p` holds. -/
structure IsShown (c : Column) (p : Prop) : Prop where
  named : ∀ s ∈ c.heading :: c.cells, Named s.toList
  shown_iff : (∀ s ∈ c.heading :: c.cells, WellMarked s) ↔ p

lemma shows_table (limit : Nat) {columns : List Column} {ps : List Prop}
    (h : List.Forall₂ IsShown columns ps) : Shows (table limit columns) (∀ p ∈ ps, p) := by
  have hboth : (∀ c ∈ columns, ∀ s ∈ c.heading :: c.cells, Named s.toList) ∧
      ((∀ c ∈ columns, ∀ s ∈ c.heading :: c.cells, WellMarked s) ↔ ∀ p ∈ ps, p) := by
    induction h with
    | nil => simp
    | cons hc _ ih =>
      obtain ⟨hnamed, hiff⟩ := hc
      refine ⟨List.forall_mem_cons.mpr ⟨hnamed, ih.1⟩, ?_⟩
      rw [List.forall_mem_cons (l := _), hiff, ih.2, List.forall_mem_cons]
  exact ((Table.shows_render limit hboth.1).congr hboth.2).bind_ok

section

variable {α : Type} (heading : String) (rightAligned : Bool) (items : List α) (cell : α → String)

/-- A column with a plain heading is shown if its cells can be shown. -/
lemma isShown_column (h : '[' ∉ heading.toList) (hcells : ∀ a ∈ items, Named (cell a).toList) :
    IsShown { heading, rightAligned, cells := items.map cell }
      (∀ a ∈ items, WellMarked (cell a)) := by
  obtain ⟨hnamed, hmarked⟩ := @clean_of_unbracketed [] heading.toList h
  constructor
  · rw [List.forall_mem_cons, List.forall_mem_map]
    exact ⟨hnamed, hcells⟩
  · rw [List.forall_mem_cons, List.forall_mem_map]
    exact and_iff_right hmarked

lemma isShown_of_clean (h : '[' ∉ heading.toList) (hcells : ∀ a ∈ items, Clean [] (cell a).toList) :
    IsShown { heading, rightAligned, cells := items.map cell } True := by
  have hcolumn := isShown_column heading rightAligned items cell h fun a ha => (hcells a ha).1
  exact ⟨hcolumn.named, hcolumn.shown_iff.trans (iff_true_intro fun a ha => (hcells a ha).2)⟩

end

lemma wellMarked_orHyphen {s : String} : WellMarked (orHyphen s) ↔ WellMarked s := by
  rw [orHyphen]
  split
  · rename_i hempty
    exact iff_of_true (wellMarked_of_unbracketed (by decide))
      (hempty ▸ wellMarked_of_unbracketed (by decide))
  · exact Iff.rfl

lemma named_orHyphen {s : String} (h : Named s.toList) : Named (orHyphen s).toList := by
  rw [orHyphen]
  split
  · exact named_of_unbracketed (by decide)
  · exact h

/-- What is printed in place of an empty list can be shown. -/
lemma clean_noInterfaces : Clean [] "\n  [dim]No interfaces.[/]\n".toList := by
  have hnote : Neutral ("\n  ".toList ++ ((Status.styled "dim" "No interfaces.").toList ++
      "\n".toList)) :=
    (Neutral.plain (by decide) (by decide)).append
      ((Status.neutral_styled Status.isStyle_dim (by decide)).append
        (Neutral.plain (by decide) (by decide)))
  exact hnote.clean

/-- All tags in the list of interfaces are names. -/
def ListNamed (i : Interface) : Prop :=
  Named i.network.name.toList ∧ Named i.device.name.toList ∧ Named i.device.addr.text.toList

/-- The list of interfaces is printed if the names in it can be shown. -/
theorem prints_interfaces (limit : Nat) (now : Int) {listed : List Store.Listed}
    (hnamed : ∀ item ∈ listed, ListNamed item.interface) :
    (ofPrintout 0 (interfaces limit now listed)).Prints (∀ item ∈ listed,
      WellMarked item.interface.network.name ∧ WellMarked item.interface.device.name) := by
  rw [interfaces]
  cases hempty : listed.isEmpty with
  | true =>
    rw [List.isEmpty_iff] at hempty
    refine (prints_cons (shows_text _ clean_noInterfaces.1) prints_nil).congr
      (iff_of_true ⟨clean_noInterfaces.2, trivial⟩ ?_)
    rw [hempty]
    exact List.forall_mem_nil _
  | false =>
    simp only [Bool.false_eq_true, if_false]
    have hnetwork := isShown_column "Network" false listed (fun l => l.interface.network.name)
      (by decide) fun item hitem => (hnamed item hitem).1
    have hdevice := isShown_column "Device" false listed (fun l => l.interface.device.name)
      (by decide) fun item hitem => (hnamed item hitem).2.1
    have haddr := isShown_of_clean "Address" false listed (fun l => l.interface.device.addr.text)
      (by decide) fun item hitem => ⟨(hnamed item hitem).2.2, Address.wellMarked_text _⟩
    have hport := isShown_of_clean "Port" true listed (fun l => shown l.interface.listenPort)
      (by decide) fun _ _ => clean_of_unbracketed (bracket_not_mem_shown _)
    have hpeers := isShown_of_clean "Peers" true listed (fun l => shown l.interface.peers.length)
      (by decide) fun _ _ => clean_of_unbracketed (bracket_not_mem_shown _)
    have hstate := isShown_of_clean "State" false listed (fun l => Status.markup l.entry)
      (by decide) fun item _ => (Status.neutral_markup item.entry).clean
    have hupdated := isShown_of_clean "Updated" false listed
      (fun l => (l.entry.map (ageOf now)).getD "-") (by decide) fun item _ => by
        cases item.entry with
        | none => exact @clean_of_unbracketed _ "-".toList (by decide)
        | some e => exact clean_of_unbracketed (bracket_not_mem_age _ _)
    have htable := shows_table limit (.cons hnetwork (.cons hdevice (.cons haddr (.cons hport
      (.cons hpeers (.cons hstate (.cons hupdated .nil)))))))
    refine (prints_cons shows_blankLine
      (prints_cons htable (prints_cons shows_blankLine prints_nil))).congr ?_
    simp only [List.forall_mem_cons, true_and, and_true, List.not_mem_nil, false_imp_iff,
      implies_true, forall_and]

/-- Everything in the panel and in the table of an interface can be shown. -/
structure Presentable (i : Interface) (last : Option Entry) : Prop where
  title : WellMarked i.label
  details : WellMarked (String.intercalate "\n" (View.details i last))
  peers : ∀ d ∈ i.peers, WellMarked d.name ∧ WellMarked d.endpoint

/-- All tags in the panel and in the table of an interface are names. -/
structure PanelNamed (i : Interface) (last : Option Entry) : Prop where
  title : Named i.label.toList
  details : Named (String.intercalate "\n" (View.details i last)).toList
  peers : ∀ d ∈ i.peers, Named d.name.toList ∧ Named d.addr.text.toList ∧ Named d.endpoint.toList

lemma shows_peers (limit : Nat) {ds : List Device}
    (hnamed : ∀ d ∈ ds, Named d.name.toList ∧ Named d.addr.text.toList ∧ Named d.endpoint.toList) :
    Shows (table limit (peers ds)) (∀ d ∈ ds, WellMarked d.name ∧ WellMarked d.endpoint) := by
  have hname := isShown_column "Peer" false ds (·.name) (by decide) fun d hd => (hnamed d hd).1
  have haddr := isShown_of_clean "Address" false ds (·.addr.text) (by decide) fun d hd =>
    ⟨(hnamed d hd).2.1, Address.wellMarked_text _⟩
  have hendpoint := isShown_column "Endpoint" false ds (fun d => orHyphen d.endpoint) (by decide)
    fun d hd => named_orHyphen (hnamed d hd).2.2
  have hkey := isShown_of_clean "Public key" false ds (·.publicKeyText) (by decide) fun _ _ =>
    clean_of_unbracketed (bracket_not_mem_format _)
  have htable := shows_table limit (.cons hname (.cons haddr (.cons hendpoint (.cons hkey .nil))))
  refine htable.congr ?_
  simp only [List.forall_mem_cons, true_and, and_true, List.not_mem_nil, false_imp_iff,
    implies_true, forall_and, wellMarked_orHyphen]

/-- An interface is printed if everything in its panel and its table can be shown. -/
theorem prints_interface (limit : Nat) {i : Interface} {last : Option Entry}
    (hnamed : PanelNamed i last) :
    (ofPrintout 0 (interface limit i last)).Prints (Presentable i last) := by
  have hiff : Presentable i last ↔ (WellMarked i.label ∧
      WellMarked (String.intercalate "\n" (details i last))) ∧
        ∀ d ∈ i.peers, WellMarked d.name ∧ WellMarked d.endpoint :=
    ⟨fun h => ⟨⟨h.title, h.details⟩, h.peers⟩, fun h => ⟨h.1.1, h.1.2, h.2⟩⟩
  have hpanel := shows_panel limit hnamed.title hnamed.details
  rw [interface, hiff]
  cases hempty : i.peers.isEmpty with
  | true =>
    rw [List.isEmpty_iff] at hempty
    refine (prints_cons shows_blankLine (prints_cons hpanel
      (prints_cons shows_blankLine prints_nil))).congr ?_
    simp [hempty]
  | false =>
    refine (prints_cons shows_blankLine (prints_cons hpanel
      (prints_cons (shows_peers limit hnamed.peers)
        (prints_cons shows_blankLine prints_nil)))).congr ?_
    simp

/-! ## Interfaces without brackets -/

/-- A list is printed if no name and no address in it has a bracket. -/
lemma exitCode_interfaces (limit : Nat) (now : Int) {listed : List Store.Listed}
    (h : ∀ item ∈ listed, '[' ∉ item.interface.network.name.toList ∧
      '[' ∉ item.interface.device.name.toList ∧ '[' ∉ item.interface.device.addr.text.toList) :
    (ofPrintout 0 (interfaces limit now listed)).exitCode = 0 := by
  have hclean : ∀ item ∈ listed, Clean [] item.interface.network.name.toList ∧
      Clean [] item.interface.device.name.toList ∧ Clean [] item.interface.device.addr.text.toList :=
    fun item hitem => (h item hitem).imp clean_of_unbracketed (.imp clean_of_unbracketed
      clean_of_unbracketed)
  refine (prints_interfaces limit now fun item hitem => ?_).exitCode_eq fun item hitem => ?_
  · obtain ⟨hnetwork, hdevice, haddr⟩ := hclean item hitem
    exact ⟨hnetwork.1, hdevice.1, haddr.1⟩
  · obtain ⟨hnetwork, hdevice, -⟩ := hclean item hitem
    exact ⟨hnetwork.2, hdevice.2⟩

/-- No text that is shown of the interface has a bracket. -/
structure Unbracketed (i : Interface) (last : Option Entry) : Prop where
  network : '[' ∉ i.network.name.toList
  cidr : '[' ∉ i.network.cidr.text.toList
  device : '[' ∉ i.device.name.toList
  addr : '[' ∉ i.device.addr.text.toList
  endpoint : '[' ∉ i.device.endpoint.toList
  peers : ∀ d ∈ i.peers,
    '[' ∉ d.name.toList ∧ '[' ∉ d.addr.text.toList ∧ '[' ∉ d.endpoint.toList
  message : ∀ e, last = some e → '[' ∉ e.message.toList

/-- Lines that are neutral with their ends make a neutral text. -/
lemma neutral_lines {lines : List String} {last : String}
    (hlines : ∀ l ∈ lines, Neutral (l.toList ++ ['\n'])) (hlast : Neutral last.toList) :
    Neutral (String.intercalate "\n" (lines ++ [last])).toList := by
  induction lines with
  | nil => simpa using hlast
  | cons l lines ih =>
    have hrest := ih fun m hm => hlines m (List.mem_cons_of_mem _ hm)
    rw [List.cons_append, String.intercalate_cons_of_ne_nil (by simp), String.toList_append,
      String.toList_append]
    exact (hlines l List.mem_cons_self).append hrest

lemma neutral_line {x : List Char} (hx : '[' ∉ x) : Neutral (x ++ ['\n']) :=
  Neutral.ended hx (by decide) (by decide)

/-- A line of a word, a text in a style and some text. -/
lemma neutral_styled_line {word style body : String} {x : List Char} (hword : '[' ∉ word.toList)
    (hslash : '\\' ∉ word.toList) (hstyle : Status.IsStyle style) (hbody : '[' ∉ body.toList)
    (hx : '[' ∉ x) :
    Neutral (word.toList ++ ((Status.styled style body).toList ++ (x ++ ['\n']))) :=
  (Neutral.plain hword hslash).append
    ((Status.neutral_styled hstyle hbody).append (neutral_line hx))

/-- The line of the state. -/
lemma neutral_state (last : Option Entry) : Neutral ("State:    " ++ Status.markup last).toList := by
  rw [String.toList_append]
  exact (Neutral.plain (by decide) (by decide)).append (Status.neutral_markup last)

namespace Unbracketed

variable {i : Interface} {last : Option Entry}

/-- The lines in front of the state are those of the interface itself. -/
lemma neutral_details (h : Unbracketed i last) :
    ∀ l ∈ (details i last).take 5, Neutral (l.toList ++ ['\n']) := by
  have hnetwork := @neutral_styled_line "Network:  " "bold" i.network.name
    (" (".toList ++ i.network.cidr.text.toList ++ ")".toList) (by decide) (by decide)
    Status.isStyle_bold h.network (by simp [h.cidr])
  have hdevice := @neutral_styled_line "Device:   " "cyan" i.device.name
    (" ".toList ++ i.device.addr.text.toList) (by decide) (by decide) Status.isStyle_cyan h.device
    (by simp [h.addr])
  have hkey := @neutral_styled_line "Key:      " "dim" i.device.publicKeyText [] (by decide)
    (by decide) Status.isStyle_dim (bracket_not_mem_format _) (by simp)
  have hendpoint : '[' ∉ (orHyphen i.device.endpoint).toList := by
    rw [orHyphen]
    split
    · decide
    · exact h.endpoint
  have hport := bracket_not_mem_shown i.listenPort
  intro l hl
  simp only [details, List.cons_append, List.take_succ_cons, List.take_zero, List.mem_cons,
    List.not_mem_nil, or_false] at hl
  rcases hl with rfl | rfl | rfl | rfl | rfl
  · simpa using hnetwork
  · simpa using hdevice
  · simpa using hkey
  · exact neutral_line (by simp [hendpoint])
  · exact neutral_line (by simp [hport])

/-- The line of the message, which is the last one unless there is no message. -/
lemma neutral_message (h : Unbracketed i last) :
    Neutral ("Message:  " ++ Status.styled "dim" ((last.map (·.message)).getD "")).toList := by
  have hbody : '[' ∉ ((last.map (·.message)).getD "").toList := by
    cases last with
    | none => decide
    | some e => exact h.message e rfl
  rw [String.toList_append]
  exact (Neutral.plain (by decide) (by decide)).append
    (Status.neutral_styled Status.isStyle_dim hbody)

lemma clean_details (h : Unbracketed i last) :
    Clean [] (String.intercalate "\n" (details i last)).toList := by
  by_cases hmessage : (last.map (·.message)).getD "" = ""
  · have hcut : details i last =
        (details i last).take 5 ++ ["State:    " ++ Status.markup last] := by
      simp [details, hmessage]
    rw [hcut]
    exact (neutral_lines h.neutral_details (neutral_state last)).clean
  · have hcut : details i last = ((details i last).take 5 ++ ["State:    " ++ Status.markup last]) ++
        ["Message:  " ++ Status.styled "dim" ((last.map (·.message)).getD "")] := by
      simp [details, hmessage]
    have hmore : ∀ l ∈ (details i last).take 5 ++ ["State:    " ++ Status.markup last],
        Neutral (l.toList ++ ['\n']) := by
      intro l hl
      rcases List.mem_append.mp hl with hl | hl
      · exact h.neutral_details l hl
      · rw [List.mem_singleton.mp hl]
        exact (neutral_state last).append (Neutral.plain (by decide) (by decide))
    rw [hcut]
    exact (neutral_lines hmore h.neutral_message).clean

lemma clean_label (h : Unbracketed i last) : Clean [] i.label.toList := by
  refine clean_of_unbracketed ?_
  simp [Interface.label, Interface.labelOf, h.device, h.network]

lemma panelNamed (h : Unbracketed i last) : PanelNamed i last where
  title := h.clean_label.1
  details := h.clean_details.1
  peers d hd :=
    have ⟨hname, haddr, hendpoint⟩ := h.peers d hd
    ⟨named_of_unbracketed hname, named_of_unbracketed haddr,
      named_of_unbracketed hendpoint⟩

lemma presentable (h : Unbracketed i last) : Presentable i last where
  title := h.clean_label.2
  details := h.clean_details.2
  peers d hd := ⟨wellMarked_of_unbracketed (h.peers d hd).1,
    wellMarked_of_unbracketed (h.peers d hd).2.2⟩

/-- Without brackets everything is printed. -/
lemma exitCode_eq (h : Unbracketed i last) (limit : Nat) :
    (ofPrintout 0 (interface limit i last)).exitCode = 0 :=
  (prints_interface limit h.panelNamed).exitCode_eq h.presentable

end Unbracketed

end View

end MeshAgent
