import Mathlib.Data.List.TakeWhile
import ConformanceSuite.Proofs.TestCase.Alike

/-!
# Readings of templates

A template reads in one way as a text in front and variables with a text behind each: the name of a
variable is as long as it can be, and a dollar sign with no name behind it belongs to a text. A
template is filled in by its reading: the text of its value stands in the place of each variable,
whatever that text may be, and the leftmost variable that has none is reported. Both are
`instantiate_reading`.
-/

namespace ConformanceSuite.Template

/-- A name that a template reads to its end. -/
structure IsName (n : String) : Prop where
  nonempty : n ≠ ""
  chars : ∀ c ∈ n.toList, isNameChar c = true

/-- The template that consists of a dollar sign and a name. -/
def mention (n : String) : String := "$" ++ n

/-- Characters with which no name goes on. -/
def EndsName (cs : List Char) : Prop := ∀ c ∈ cs.head?, isNameChar c = false

/-- Characters among which no dollar sign has a name behind it. -/
def IsLiteral (cs : List Char) : Prop := ∀ c, ['$', c] <:+: cs → isNameChar c = false

section Chars

variable {cs rest : List Char}

theorem endsName_nil : EndsName [] := nofun

theorem EndsName.append (h : EndsName cs) (hrest : EndsName rest) : EndsName (cs ++ rest) := by
  cases cs with
  | nil => exact hrest
  | cons c cs => exact h

theorem EndsName.of_append (h : EndsName (cs ++ rest)) : EndsName cs := by
  cases cs with
  | nil => exact endsName_nil
  | cons c cs => exact h

theorem takeWhile_eq_nil_iff : cs.takeWhile isNameChar = [] ↔ EndsName cs := by
  cases cs with
  | nil => simp [EndsName]
  | cons c cs => simp [EndsName, List.takeWhile_cons]

theorem endsName_dropWhile (cs : List Char) : EndsName (cs.dropWhile isNameChar) := by
  intro c hc
  have h := List.head?_dropWhile_not isNameChar cs
  rwa [Option.mem_def.1 hc] at h

theorem endsName_dollar (cs : List Char) : EndsName ('$' :: cs) := by
  intro c hc
  obtain rfl : '$' = c := by simpa using hc
  decide

/-- What a name does not go on with is read apart from what stands in front of it. -/
theorem takeWhile_append_of_endsName (h : EndsName rest) :
    (cs ++ rest).takeWhile isNameChar = cs.takeWhile isNameChar := by
  induction cs with
  | nil => exact takeWhile_eq_nil_iff.2 h
  | cons c cs ih => simp only [List.cons_append, List.takeWhile_cons, ih]

theorem dropWhile_append_of_endsName (h : EndsName rest) :
    (cs ++ rest).dropWhile isNameChar = cs.dropWhile isNameChar ++ rest := by
  have hsplit : (cs ++ rest).takeWhile isNameChar ++ (cs ++ rest).dropWhile isNameChar =
      (cs ++ rest).takeWhile isNameChar ++ (cs.dropWhile isNameChar ++ rest) := by
    rw [List.takeWhile_append_dropWhile, takeWhile_append_of_endsName h, ← List.append_assoc,
      List.takeWhile_append_dropWhile]
  exact List.append_cancel_left hsplit

theorem isLiteral_cons_iff {c : Char} :
    IsLiteral (c :: cs) ↔ (c = '$' → EndsName cs) ∧ IsLiteral cs := by
  constructor
  · intro h
    refine ⟨?_, fun d hd => h d (hd.trans (List.suffix_cons c cs).isInfix)⟩
    rintro rfl d hd
    obtain ⟨tail, rfl⟩ := List.head?_eq_some_iff.1 hd
    exact h d ⟨[], tail, rfl⟩
  · rintro ⟨hends, htail⟩ d hd
    rcases List.infix_cons_iff.1 hd with ⟨tail, heq⟩ | hd
    · obtain ⟨hdollar, htail⟩ := List.cons.inj heq
      exact hends hdollar.symm d (by simp [← htail])
    · exact htail d hd

/-! ### Pieces -/

/-- The name that a template reads behind a dollar sign, if it reads any. -/
theorem pieces_mention (h : cs.takeWhile isNameChar ≠ []) :
    pieces ('$' :: cs) =
      .variable (cs.takeWhile isNameChar) :: pieces (cs.dropWhile isNameChar) := by
  rw [pieces, if_pos ⟨rfl, by simpa using h⟩]

/-- The pieces of a template in two parts, of which a name ends with the first, are those of its
parts. -/
theorem pieces_append (h : EndsName rest) : pieces (cs ++ rest) = pieces cs ++ pieces rest := by
  induction cs using pieces.induct with
  | case1 => simp [pieces]
  | case2 c tail hread ih =>
    rw [List.cons_append, pieces, takeWhile_append_of_endsName h, if_pos hread,
      dropWhile_append_of_endsName h, ih, pieces, if_pos hread, List.cons_append]
  | case3 c tail hread ih =>
    rw [List.cons_append, pieces, takeWhile_append_of_endsName h, if_neg hread, ih, pieces,
      if_neg hread, List.cons_append]

/-- A name is read up to where it ends. -/
theorem pieces_name_append {n : String} (hn : IsName n) (hrest : EndsName rest) :
    pieces ('$' :: (n.toList ++ rest)) = .variable n.toList :: pieces rest := by
  have htake : (n.toList ++ rest).takeWhile isNameChar = n.toList := by
    rw [takeWhile_append_of_endsName hrest, List.takeWhile_eq_self_iff.2 hn.chars]
  have hdrop : (n.toList ++ rest).dropWhile isNameChar = rest := by
    rw [dropWhile_append_of_endsName hrest, List.dropWhile_eq_nil_iff.2 hn.chars, List.nil_append]
  have hne : (n.toList ++ rest).takeWhile isNameChar ≠ [] := by
    rw [htake]
    exact fun hnil => hn.nonempty (String.toList_eq_nil_iff.1 hnil)
  rw [pieces_mention hne, htake, hdrop]

/-- The characters of a text stand for themselves. -/
theorem pieces_literal_append (h : IsLiteral cs) (hrest : EndsName rest) :
    pieces (cs ++ rest) = cs.map .literal ++ pieces rest := by
  induction cs with
  | nil => rfl
  | cons c cs ih =>
    obtain ⟨hends, htail⟩ := isLiteral_cons_iff.1 h
    have hread : ¬ (c = '$' ∧ ((cs ++ rest).takeWhile isNameChar).isEmpty = false) := by
      rintro ⟨hc, hname⟩
      simp [takeWhile_eq_nil_iff.2 ((hends hc).append hrest)] at hname
    rw [List.cons_append, pieces, if_neg hread, ih htail, List.map_cons, List.cons_append]

end Chars

/-! ### Readings -/

/-- A text in front, and variables with the text behind each. -/
structure Reading where
  lead : String
  mentions : List (String × String)
  deriving DecidableEq

/-- A variable with the text behind it: the name does not go on in the text, and the text has no
variable in it. -/
structure IsMention (m : String × String) : Prop where
  name : IsName m.1
  ends : EndsName m.2.toList
  text : IsLiteral m.2.toList

namespace Reading

/-- The names of the variables, in order. -/
def names (r : Reading) : List String := r.mentions.map Prod.fst

/-- The texts of a reading, with a text in the place of each variable. -/
def render (r : Reading) (value : String → String) : String :=
  r.lead ++ String.join (r.mentions.map fun m => value m.1 ++ m.2)

/-- A reading of a template: with a dollar sign and its name in the place of each variable, it is
the template. -/
structure Of (r : Reading) (template : String) : Prop where
  source : r.render mention = template
  lead : IsLiteral r.lead.toList
  mentions : ∀ m ∈ r.mentions, IsMention m

/-- The pieces of a reading. -/
def toPieces (r : Reading) : List Piece :=
  r.lead.toList.map .literal ++
    r.mentions.flatMap fun m => .variable m.1.toList :: m.2.toList.map .literal

/-- Pieces with their literal characters put together. -/
def ofPieces : List Piece → Reading
  | [] => ⟨"", []⟩
  | .literal c :: ps => ⟨String.ofList (c :: (ofPieces ps).lead.toList), (ofPieces ps).mentions⟩
  | .variable n :: ps => ⟨"", (String.ofList n, (ofPieces ps).lead) :: (ofPieces ps).mentions⟩

theorem ofPieces_literal_append (cs : List Char) (ps : List Piece) :
    ofPieces (cs.map .literal ++ ps) =
      ⟨String.ofList (cs ++ (ofPieces ps).lead.toList), (ofPieces ps).mentions⟩ := by
  induction cs with
  | nil => simp
  | cons c cs ih => rw [List.map_cons, List.cons_append, ofPieces, ih]; simp

theorem ofPieces_toPieces (r : Reading) : ofPieces r.toPieces = r := by
  obtain ⟨lead, mentions⟩ := r
  have hmentions : ofPieces (mentions.flatMap fun m =>
      .variable m.1.toList :: m.2.toList.map .literal) = ⟨"", mentions⟩ := by
    induction mentions with
    | nil => rfl
    | cons m rest ih =>
      rw [List.flatMap_cons, List.cons_append, ofPieces, ofPieces_literal_append, ih]
      simp
  rw [toPieces, ofPieces_literal_append, hmentions]
  simp

theorem toList_render (r : Reading) (value : String → String) :
    (r.render value).toList =
      r.lead.toList ++ r.mentions.flatMap fun m => (value m.1).toList ++ m.2.toList := by
  simp [render, List.flatMap_map]

/-- Variables are read one by one. -/
theorem pieces_mentions {ms : List (String × String)} (h : ∀ m ∈ ms, IsMention m) :
    EndsName (ms.flatMap fun m => (mention m.1).toList ++ m.2.toList) ∧
      pieces (ms.flatMap fun m => (mention m.1).toList ++ m.2.toList) =
        ms.flatMap fun m => .variable m.1.toList :: m.2.toList.map .literal := by
  induction ms with
  | nil => exact ⟨endsName_nil, by rw [List.flatMap_nil, pieces, List.flatMap_nil]⟩
  | cons m rest ih =>
    obtain ⟨hm, hrest⟩ := List.forall_mem_cons.1 h
    obtain ⟨hends, hpieces⟩ := ih hrest
    have hmention : (mention m.1).toList = '$' :: m.1.toList := by simp [mention]
    simp only [List.flatMap_cons, hmention, List.cons_append, List.append_assoc]
    refine ⟨endsName_dollar _, ?_⟩
    rw [pieces_name_append hm.name (hm.ends.append hends), pieces_literal_append hm.text hends,
      hpieces]

/-- The pieces of a template are those of any reading of it. -/
theorem Of.pieces_eq {r : Reading} {template : String} (h : r.Of template) :
    pieces template.toList = r.toPieces := by
  obtain ⟨hends, hpieces⟩ := pieces_mentions h.mentions
  rw [← h.source, toList_render, pieces_literal_append h.lead hends, hpieces, toPieces]

theorem Of.source_eq {r : Reading} {cs : List Char} (h : r.Of (String.ofList cs)) :
    (r.lead.toList ++ r.mentions.flatMap fun m => (mention m.1).toList ++ m.2.toList) = cs := by
  rw [← toList_render, h.source, String.toList_ofList]

/-- What stands in front of the first variable is the beginning of the template. -/
theorem Of.endsName_lead {r : Reading} {cs : List Char} (h : r.Of (String.ofList cs))
    (hcs : EndsName cs) : EndsName r.lead.toList :=
  EndsName.of_append (h.source_eq.symm ▸ hcs)

theorem of_empty : (Reading.mk "" []).Of "" where
  source := rfl
  lead := by simp [IsLiteral]
  mentions := by simp

/-- A character that begins no variable goes in front of the text of a reading. -/
theorem Of.literal {r : Reading} {cs : List Char} (h : r.Of (String.ofList cs)) {c : Char}
    (hc : c = '$' → EndsName cs) :
    (Reading.mk (String.ofList (c :: r.lead.toList)) r.mentions).Of (String.ofList (c :: cs)) where
  source := by
    rw [← String.toList_inj, toList_render, String.toList_ofList, String.toList_ofList,
      List.cons_append, h.source_eq]
  lead := by
    rw [String.toList_ofList, isLiteral_cons_iff]
    exact ⟨fun hdollar => h.endsName_lead (hc hdollar), h.lead⟩
  mentions := h.mentions

/-- A variable goes in front of a reading of what its name does not go on with. -/
theorem Of.variable {r : Reading} {cs : List Char} (h : r.Of (String.ofList cs))
    (hcs : EndsName cs) {n : List Char} (hn : IsName (String.ofList n)) :
    (Reading.mk "" ((String.ofList n, r.lead) :: r.mentions)).Of
      (String.ofList ('$' :: (n ++ cs))) where
  source := by
    rw [← String.toList_inj, toList_render, String.toList_ofList, ← h.source_eq]
    simp [mention]
  lead := of_empty.lead
  mentions := List.forall_mem_cons.2 ⟨⟨hn, h.endsName_lead hcs, h.lead⟩, h.mentions⟩

/-- The pieces of a template make up a reading of it. -/
theorem of_ofPieces (cs : List Char) : (ofPieces (pieces cs)).Of (String.ofList cs) := by
  induction cs using pieces.induct with
  | case1 =>
    rw [pieces]
    exact of_empty
  | case2 c rest h ih =>
    obtain ⟨rfl, hread⟩ := h
    have hname : IsName (String.ofList (rest.takeWhile isNameChar)) := by
      refine ⟨fun hempty => ?_, fun c hc => ?_⟩
      · have hnil : rest.takeWhile isNameChar = [] := by
          simpa using congrArg String.toList hempty
        simp [hnil] at hread
      · rw [String.toList_ofList] at hc
        exact List.mem_takeWhile_imp hc
    have h := ih.variable (endsName_dropWhile rest) hname
    rw [List.takeWhile_append_dropWhile] at h
    rwa [pieces, if_pos ⟨rfl, hread⟩]
  | case3 c rest h ih =>
    rw [pieces, if_neg h]
    refine ih.literal fun hc => takeWhile_eq_nil_iff.1 ?_
    simpa [hc] using h

end Reading

/-- The reading of a template. -/
def reading (template : String) : Reading := Reading.ofPieces (pieces template.toList)

/-- A template has one reading. -/
theorem of_iff_eq_reading {r : Reading} {template : String} :
    r.Of template ↔ r = reading template := by
  constructor
  · intro h
    rw [reading, h.pieces_eq, Reading.ofPieces_toPieces]
  · rintro rfl
    have h := Reading.of_ofPieces template.toList
    rwa [String.ofList_toList] at h

/-! ### Filling in -/

section Filling

variable {context : Context} {name : String}

theorem resolve_of_get? {value : Json} (hsound : context.poisoned = false)
    (h : context.entries.get? name = some value) : resolve context name = .ok value.text := by
  simp [resolve, Context.get, hsound, h]

theorem resolve_of_absent (hsound : context.poisoned = false)
    (h : context.entries.get? name = none) : resolve context name = .error (.unresolved name) := by
  simp [resolve, Context.get, hsound, h]

theorem resolve_of_poisoned (h : context.poisoned = true) :
    resolve context name = .error (.context .poisoned) := by
  simp [resolve, Context.get, h]

/-- The characters of a piece, with a text in the place of a variable. -/
def Piece.render (value : String → String) : Piece → List Char
  | .literal c => [c]
  | .variable n => (value (String.ofList n)).toList

/-- Pieces are filled in one by one when each of their names has a text. -/
theorem fill_of_resolved {value : String → String} {ps : List Piece}
    (h : ∀ name ∈ names ps, resolve context name = .ok (value name)) :
    fill context ps = .ok (ps.flatMap (Piece.render value)) := by
  induction ps with
  | nil => rfl
  | cons p rest ih =>
    obtain c | n := p
    · rw [fill, ih h]
      rfl
    · obtain ⟨hfirst, hrest⟩ := List.forall_mem_cons.1 h
      rw [fill, hfirst, ih hrest]
      rfl

/-- Pieces in two parts are filled in one part after the other. -/
theorem fill_append (context : Context) (ps qs : List Piece) :
    fill context (ps ++ qs) = (do
      let front ← fill context ps
      let back ← fill context qs
      .ok (front ++ back)) := by
  induction ps with
  | nil =>
    rw [List.nil_append, fill]
    cases fill context qs <;> rfl
  | cons p rest ih =>
    obtain x | name := p
    · rw [List.cons_append, fill, fill, ih]
      cases fill context rest with
      | error e => rfl
      | ok front => cases fill context qs <;> rfl
    · rw [List.cons_append, fill, fill, ih]
      cases resolve context (String.ofList name) with
      | error e => rfl
      | ok text =>
        cases fill context rest with
        | error e => rfl
        | ok front =>
          cases fill context qs with
          | error e => rfl
          | ok back => simp [bind, Except.bind, Except.map]

/-- The first name that has no text decides how filling in fails. -/
theorem fill_of_unresolved {e : Error} {ps : List Piece} {front back : List String}
    (h : names ps = front ++ name :: back)
    (hfront : ∀ n ∈ front, ∃ text, resolve context n = .ok text)
    (he : resolve context name = .error e) : fill context ps = .error e := by
  induction ps generalizing front with
  | nil => simp [names] at h
  | cons p rest ih =>
    obtain c | n := p
    · rw [fill, ih h hfront]
      rfl
    · cases front with
      | nil =>
        obtain ⟨hname, -⟩ := List.cons.inj h
        rw [fill, hname, he]
      | cons first front =>
        obtain ⟨hname, hnames⟩ := List.cons.inj h
        obtain ⟨⟨text, htext⟩, hrest⟩ := List.forall_mem_cons.1 hfront
        rw [fill, hname, htext]
        simp [ih hnames hrest, Except.map]

end Filling

namespace Reading

theorem names_literals_append (cs : List Char) (ps : List Piece) :
    Template.names (cs.map .literal ++ ps) = Template.names ps := by
  simp [Template.names, List.filterMap_map]

theorem names_toPieces (r : Reading) : Template.names r.toPieces = r.names := by
  obtain ⟨lead, mentions⟩ := r
  rw [toPieces, names_literals_append, names]
  induction mentions with
  | nil => rfl
  | cons m rest ih =>
    rw [List.flatMap_cons, List.cons_append]
    change String.ofList m.1.toList :: Template.names (_ ++ _) = _
    rw [names_literals_append, ih, String.ofList_toList, List.map_cons]

theorem flatMap_toPieces (r : Reading) (value : String → String) :
    r.toPieces.flatMap (Piece.render value) = (r.render value).toList := by
  have hliterals : ∀ cs : List Char, (cs.map .literal).flatMap (Piece.render value) = cs := by
    simp [List.flatMap_map, Piece.render]
  simp [toPieces, toList_render, hliterals, List.flatMap_assoc, Piece.render]

/-- What becomes of a template over a context, by a reading of it. -/
structure Decides (r : Reading) (template : String) (context : Context)
    (answer : Except Error String) : Prop where
  /-- Every variable gives way to the text of its value, if all have one. -/
  filled : context.poisoned = false → ∀ values : String → Json,
    (∀ name ∈ r.names, context.entries.get? name = some (values name)) →
    answer = .ok (r.render fun name => (values name).text)
  /-- The leftmost variable without a value is reported. -/
  unresolved : context.poisoned = false → ∀ name,
    r.names.find? (fun n => !context.entries.contains n) = some name →
    answer = .error (.unresolved name)
  /-- A poisoned context is reported, if there is a variable at all. -/
  poisoned : context.poisoned = true → r.names ≠ [] → answer = .error (.context .poisoned)
  /-- A template without variables stands for itself. -/
  plain : r.names = [] → answer = .ok template

/-- Whatever a context gives for names decides what becomes of a template. -/
theorem Of.instantiate_of_resolved {r : Reading} {template : String} (h : r.Of template)
    {context : Context} {value : String → String}
    (hvalue : ∀ name ∈ r.names, resolve context name = .ok (value name)) :
    instantiate template context = .ok (r.render value) := by
  rw [← names_toPieces] at hvalue
  rw [instantiate, h.pieces_eq, fill_of_resolved hvalue, flatMap_toPieces, Except.map,
    String.ofList_toList]

theorem Of.instantiate_of_unresolved {r : Reading} {template : String} (h : r.Of template)
    {context : Context} {front back : List String} {name : String} {e : Error}
    (hnames : r.names = front ++ name :: back)
    (hfront : ∀ n ∈ front, ∃ text, resolve context n = .ok text)
    (he : resolve context name = .error e) : instantiate template context = .error e := by
  rw [← names_toPieces] at hnames
  rw [instantiate, h.pieces_eq, fill_of_unresolved hnames hfront he, Except.map]

theorem Of.decides {r : Reading} {template : String} (h : r.Of template) (context : Context) :
    r.Decides template context (instantiate template context) where
  filled hsound values hvalues :=
    h.instantiate_of_resolved fun name hname => resolve_of_get? hsound (hvalues name hname)
  unresolved hsound name hname := by
    obtain ⟨habsent, front, back, hnames, hfront⟩ := List.find?_eq_some_iff_append.1 hname
    refine h.instantiate_of_unresolved hnames (fun n hn => ?_) (resolve_of_absent hsound ?_)
    · obtain ⟨value, hvalue⟩ := Option.isSome_iff_exists.1
        (by simpa [KeyMap.contains] using hfront n hn : (context.entries.get? n).isSome)
      exact ⟨_, resolve_of_get? hsound hvalue⟩
    · simpa [KeyMap.contains] using habsent
  poisoned hpoisoned hne := by
    obtain ⟨name, back, hnames⟩ := List.exists_cons_of_ne_nil hne
    rw [← List.nil_append (name :: back)] at hnames
    exact h.instantiate_of_unresolved hnames (List.forall_mem_nil _) (resolve_of_poisoned hpoisoned)
  plain hnil := by
    have hfilled : instantiate template context = .ok (r.render mention) :=
      h.instantiate_of_resolved (by simp [hnil])
    rwa [h.source] at hfilled

end Reading

/-- A template has one reading, and by that reading it is filled in. -/
theorem instantiate_reading (template : String) (context : Context) :
    (∀ r : Reading, r.Of template ↔ r = reading template) ∧
      (reading template).Decides template context (instantiate template context) :=
  ⟨fun _ => of_iff_eq_reading, (of_iff_eq_reading.2 rfl).decides context⟩

/-- A dollar sign in front of a variable stands for itself, and so does one that a value brings. -/
example : (instantiate "$$a_1-$b€" (.ofList [("a_1", .string "$b"), ("b", .bool true)])).toOption =
    some "$$b-true€" := by
  decide +kernel

end ConformanceSuite.Template
