import LkLexer.Command.Arguments

/-!
# A parser that keeps the laws

Reading goes from left to right and holds a file back, and what was read before decides whether an option is a
repeated one, or a file a second one. Of all this only what is asked for so far matters: an item is read exactly when it
can be added to that (`add_item`), and parts come to a request exactly when all of them are items that can be added one
after another (`ofParts_eq_request_iff`). Main statements: the parser keeps both laws of parsers
(`stops_parseArguments`, `readsInTurn_parseArguments`).
-/

namespace LkLexer.Command

namespace Progress

/-- What is true of the arguments read so far, as long as none of them has ended the reading. -/
structure InOrder (progress : Progress) : Prop where
  accepted_ne : progress.accepted? ≠ some []
  apart : progress.accepted? = none ∨ progress.held? = none

variable {progress : Progress}

/-- Before any argument all is in order. -/
theorem inOrder_start : start.InOrder where
  accepted_ne := nofun
  apart := Or.inl rfl

/-- The file that was read is accepted unless it is empty. -/
theorem settle_eq (hprogress : progress.InOrder) :
    progress.settle =
      if progress.request.file? = some [] then .error (.mistake ⟨.emptyFile, .nothing⟩)
      else .ok ⟨progress.switches, progress.request.file?, none⟩ := by
  obtain ⟨switches, accepted?, held?⟩ := progress
  obtain ⟨haccepted, hapart⟩ := hprogress
  cases held? with
  | none =>
    have hnamed : (request ⟨switches, accepted?, none⟩).file? ≠ some [] := by simpa [request] using haccepted
    rw [if_neg hnamed, request, Option.or_none]
    rfl
  | some path =>
    obtain rfl : accepted? = none := hapart.resolve_right nofun
    cases path with
    | nil => rfl
    | cons c path => rfl

/-- What the arguments read so far ask for, unless they name an empty file. -/
def asked? (progress : Progress) : Option Request :=
  if progress.request.file? = some [] then none else some progress.request

/-- At the end the options and the file that were read are the request, unless the file is empty. -/
theorem finish_eq_request_iff (hprogress : progress.InOrder) (wanted : Request) :
    progress.finish = .request wanted ↔ progress.asked? = some wanted := by
  rw [finish, settle_eq hprogress, asked?]
  by_cases hempty : progress.request.file? = some []
  · rw [if_pos hempty, if_pos hempty]
    exact iff_of_false nofun nofun
  · rw [if_neg hempty, if_neg hempty, Option.some.injEq]
    change Reading.request (request ⟨progress.switches, progress.request.file?, none⟩) = _ ↔ _
    rw [Reading.request.injEq, request, Option.or_none]
    rfl

/-- A file is held back where none was read before. -/
theorem addFile_eq (progress : Progress) (path : Text) :
    progress.addFile path =
      if progress.request.file?.isSome then .error (.mistake ⟨.unexpectedFile path, .nothing⟩)
      else .ok ⟨progress.switches, none, some path⟩ := by
  obtain ⟨switches, accepted?, held?⟩ := progress
  cases accepted? <;> cases held? <;> rfl

/-- Holding back a first file leaves all in order. -/
theorem inOrder_held (switches : List Switch) (path : Text) : InOrder ⟨switches, none, some path⟩ where
  accepted_ne := nofun
  apart := Or.inl rfl

/-- One more option, where all was in order before. -/
theorem addSwitch_eq (hprogress : progress.InOrder) (switch : Switch) :
    progress.addSwitch switch =
      if progress.request.file? = some [] then .error (.mistake ⟨.emptyFile, .nothing⟩)
      else if switch = .help then .error .help
      else if switch ∈ progress.switches then .error (.mistake ⟨.repeated switch, .nothing⟩)
      else .ok ⟨progress.switches ++ [switch], progress.request.file?, none⟩ := by
  rw [addSwitch, settle_eq hprogress]
  by_cases hempty : progress.request.file? = some []
  · rw [if_pos hempty, if_pos hempty]
  · rw [if_neg hempty, if_neg hempty]

/-- Accepting a file that is not empty leaves all in order. -/
theorem inOrder_accepted (switches : List Switch) {file? : Option Text} (hnamed : file? ≠ some []) :
    InOrder ⟨switches, file?, none⟩ where
  accepted_ne := hnamed
  apart := Or.inr rfl

/-- An option is added to the request when it is not help and was not read before. -/
theorem withItem?_request (progress : Progress) (switch : Switch) :
    progress.request.withItem? (.option switch) =
      if switch = .help ∨ switch ∈ progress.switches then none
      else some (request ⟨progress.switches ++ [switch], progress.request.file?, none⟩) := by
  cases switch <;> simp [Request.withItem?, request]

/-- An item is read exactly when it can be added to what was asked for, with what is asked for then. An empty file is
held back instead of refused, but then nothing is asked for any more. -/
theorem add_item (hprogress : progress.InOrder) (item : Item) :
    (∃ next, progress.add (.ok item) = .ok next ∧ next.InOrder ∧
      next.asked? = progress.asked?.bind fun request => request.withItem? item) ∨
    (∃ reading, progress.add (.ok item) = .error reading ∧ (∀ request, reading ≠ .request request) ∧
      (progress.asked?.bind fun request => request.withItem? item) = none) := by
  cases item with
  | file path =>
    rw [add, addFile_eq]
    cases hfile : progress.request.file? with
    | some first =>
      refine Or.inr ⟨_, rfl, nofun, ?_⟩
      by_cases hempty : first = [] <;> simp [asked?, hfile, hempty, Request.withItem?]
    | none =>
      refine Or.inl ⟨_, rfl, inOrder_held _ path, ?_⟩
      have hnone : progress.accepted?.or progress.held? = none := hfile
      by_cases hempty : path = [] <;> simp [asked?, request, hnone, hempty, Request.withItem?]
  | option switch =>
    rw [add, addSwitch_eq hprogress]
    by_cases hempty : progress.request.file? = some []
    · rw [if_pos hempty, asked?, if_pos hempty]
      exact Or.inr ⟨_, rfl, nofun, rfl⟩
    · rw [if_neg hempty, asked?, if_neg hempty, Option.bind_some, withItem?_request]
      by_cases hhelp : switch = .help
      · rw [if_pos hhelp, if_pos (Or.inl hhelp)]
        exact Or.inr ⟨_, rfl, nofun, rfl⟩
      · by_cases hrepeated : switch ∈ progress.switches
        · rw [if_neg hhelp, if_pos hrepeated, if_pos (Or.inr hrepeated)]
          exact Or.inr ⟨_, rfl, nofun, rfl⟩
        · rw [if_neg hhelp, if_neg hrepeated, if_neg (not_or.mpr ⟨hhelp, hrepeated⟩)]
          refine Or.inl ⟨_, rfl, inOrder_accepted _ hempty, ?_⟩
          rw [asked?, if_neg]
          simpa [request] using hempty

end Progress

namespace Reading

open Progress

variable {progress : Progress} {request : Request}

/-- Parts are all items when the first is one and the others are. -/
theorem exists_items_cons_iff (item : Item) (later : List Part) (holds : List Item → Prop) :
    (∃ items : List Item, .ok item :: later = items.map .ok ∧ holds items) ↔
      ∃ items : List Item, later = items.map .ok ∧ holds (item :: items) := by
  refine ⟨fun hitems => ?_, fun hitems => ?_⟩
  · obtain ⟨items, heq, hholds⟩ := hitems
    obtain ⟨first, items, rfl, hfirst, rfl⟩ := List.map_eq_cons_iff.mp heq.symm
    obtain rfl := Except.ok.inj hfirst
    exact ⟨items, rfl, hholds⟩
  · obtain ⟨items, rfl, hholds⟩ := hitems
    exact ⟨item :: items, rfl, hholds⟩

/-- Parts that are read in order come to a request exactly when all of them are items and this is what is asked for
with these items, one after another. -/
theorem ofParts_eq_request_iff (hprogress : progress.InOrder) (parts : List Part) :
    ofParts progress parts = .request request ↔ ∃ items : List Item, parts = items.map .ok ∧
      (progress.asked?.bind fun asked => items.foldlM Request.withItem? asked) = some request := by
  induction parts generalizing progress with
  | nil =>
    rw [ofParts, finish_eq_request_iff hprogress]
    refine ⟨fun hasked => ⟨[], rfl, by rw [hasked]; rfl⟩, fun hitems => ?_⟩
    obtain ⟨items, hnil, hrequest⟩ := hitems
    obtain rfl := List.map_eq_nil_iff.mp hnil.symm
    obtain ⟨asked, hasked, hrequest⟩ := Option.bind_eq_some_iff.mp hrequest
    exact hasked.trans hrequest
  | cons part later ih =>
    cases part with
    | error mistake =>
      refine iff_of_false nofun fun hitems => ?_
      obtain ⟨items, heq, -⟩ := hitems
      cases items <;> cases heq
    | ok item =>
      rw [exists_items_cons_iff]
      simp only [List.foldlM_cons, Option.bind_eq_bind, ← Option.bind_assoc]
      obtain ⟨next, hadd, hnext, hasked⟩ | ⟨reading, hadd, hreading, hasked⟩ := add_item hprogress item
      · rw [ofParts, hadd, ← hasked]
        exact ih hnext
      · rw [ofParts, hadd, hasked]
        refine iff_of_false (hreading request) fun hitems => ?_
        obtain ⟨items, -, hrequest⟩ := hitems
        cases hrequest

end Reading

namespace Part

/-- Characters stand for items when they are letters of options. -/
theorem map_ofLetter_eq_iff (letters : List Char) (items : List Item) :
    letters.map ofLetter = items.map .ok ↔
      (letters.mapM fun letter => (Switch.ofLetter? letter).map Item.option) = some items := by
  induction letters generalizing items with
  | nil => cases items <;> simp
  | cons letter later ih =>
    cases hswitch : Switch.ofLetter? letter with
    | none => cases items <;> simp [ofLetter, hswitch]
    | some switch =>
      have hletters : ((letter :: later).mapM fun letter => (Switch.ofLetter? letter).map Item.option) =
          (later.mapM fun letter => (Switch.ofLetter? letter).map Item.option).map (Item.option switch :: ·) := by
        rw [List.mapM_cons, hswitch]
        cases later.mapM fun letter => (Switch.ofLetter? letter).map Item.option <;> rfl
      rw [hletters, Option.map_eq_some_iff, List.map_cons, ofLetter, hswitch]
      constructor
      · intro hitems
        obtain ⟨item, later, rfl, hitem, hlater⟩ := List.map_eq_cons_iff.mp hitems.symm
        exact ⟨later, (ih later).mp hlater.symm, congrArg (· :: later) (Except.ok.inj hitem).symm⟩
      · rintro ⟨found, hfound, rfl⟩
        rw [(ih found).mpr hfound]
        rfl

/-- What follows two dashes stands for an option when it is the name of one. -/
theorem ofLong_eq_ok_iff (text : Text) (item : Item) :
    ofLong text = .ok item ↔ (Switch.ofName? text).map Item.option = some item := by
  have hparts := List.takeWhile_append_dropWhile (p := (· ≠ '=')) (l := text)
  refine ⟨fun hok => ?_, fun hname => ?_⟩
  · simp only [ofLong] at hok
    split at hok
    · cases hok
    · next switch hswitch hvalue =>
      rw [hvalue, List.append_nil] at hparts
      rw [hparts] at hswitch
      rw [hswitch]
      exact congrArg some (Except.ok.inj hok)
    · cases hok
  · obtain ⟨switch, hswitch, rfl⟩ := Option.map_eq_some_iff.mp hname
    obtain rfl := (Switch.ofName?_eq_some_iff _ _).mp hswitch
    cases switch <;> rfl

/-- A part is an item when it is the only one of them. -/
theorem singleton_eq_map_iff (part : Part) (items : List Item) :
    [part] = items.map .ok ↔ ∃ item, part = .ok item ∧ [item] = items := by
  rw [eq_comm, List.map_eq_singleton_iff]
  exact exists_congr fun item => and_comm.trans (and_congr eq_comm eq_comm)

/-- The parts of an argument are items exactly when it stands for these. -/
theorem ofArgument_eq_iff (argument : Text) (items : List Item) :
    ofArgument argument = items.map .ok ↔ Item.ofArgument? argument = some items := by
  fun_cases ofArgument argument with
  | case1 text =>
    rw [singleton_eq_map_iff, Item.ofArgument?]
    simp only [ofLong_eq_ok_iff]
    cases Switch.ofName? text <;> simp
  | case2 c cluster hdash =>
    rw [Item.ofArgument?, map_ofLetter_eq_iff]
    exact hdash
  | case3 path hlong hcluster =>
    rw [Item.ofArgument?, singleton_eq_map_iff, Option.some.injEq]
    · simp
    · exact hlong
    · exact hcluster

/-- One more argument that does not end the options adds its own parts. -/
theorem ofArguments_append {front : List Text} {argument : Text} (hdashes : "--".toList ∉ front ++ [argument]) :
    ofArguments (front ++ [argument]) = ofArguments front ++ ofArgument argument := by
  induction front with
  | nil =>
    have hne : argument ≠ "--".toList := fun heq => hdashes (heq ▸ List.mem_cons_self)
    change ofArguments [argument] = ofArgument argument
    rw [ofArguments, if_neg hne]
    exact List.append_nil _
  | cons first front ih =>
    rw [List.cons_append, List.mem_cons, not_or] at hdashes
    rw [List.cons_append, ofArguments, ofArguments, if_neg (Ne.symm hdashes.1), if_neg (Ne.symm hdashes.1),
      ih hdashes.2, List.append_assoc]

end Part

/-- Arguments come to a request exactly when their parts are all items and this is the request of these. -/
theorem parseArguments_eq_ok_iff (arguments : List Text) (request : Request) :
    parseArguments arguments = .ok request ↔
      ∃ items : List Item, Part.ofArguments arguments = items.map .ok ∧
        items.foldlM Request.withItem? .nothing = some request := by
  have hreading : parseArguments arguments = .ok request ↔ Reading.ofArguments arguments = .request request := by
    rw [parseArguments]
    cases Reading.ofArguments arguments <;> simp
  rw [hreading, Reading.ofArguments, Reading.ofParts_eq_request_iff Progress.inOrder_start]
  rfl

/-- The parser answers with help, or with a complaint, where arguments do not come to a request. -/
theorem stops_parseArguments : Parser.Stops parseArguments := by
  intro arguments outcome hstops
  rw [parseArguments] at hstops
  cases hreading : Reading.ofArguments arguments with
  | request request =>
    rw [hreading] at hstops
    cases hstops
  | help =>
    rw [hreading] at hstops
    obtain rfl := Except.error.inj hstops
    exact Or.inl ⟨rfl, rfl⟩
  | mistake error =>
    rw [hreading] at hstops
    obtain rfl := Except.error.inj hstops
    exact Or.inr ⟨rfl, rfl, List.append_ne_nil_of_right_ne_nil _ (List.cons_ne_nil '\n' [])⟩

/-- The parser reads arguments in turn. -/
theorem readsInTurn_parseArguments : Parser.ReadsInTurn parseArguments where
  nil := (parseArguments_eq_ok_iff [] .nothing).mpr ⟨[], rfl, rfl⟩
  snoc := by
    intro front argument request hdashes
    simp only [parseArguments_eq_ok_iff, Part.ofArguments_append hdashes]
    refine ⟨fun hitems => ?_, fun hearlier => ?_⟩
    · obtain ⟨items, hparts, hrequest⟩ := hitems
      obtain ⟨before, more, rfl, hbefore, hmore⟩ := List.map_eq_append_iff.mp hparts.symm
      rw [List.foldlM_append, Option.bind_eq_bind, Option.bind_eq_some_iff] at hrequest
      obtain ⟨earlier, hearlier, hrequest⟩ := hrequest
      refine ⟨earlier, ⟨before, hbefore.symm, hearlier⟩, ?_⟩
      rw [Request.withArgument?, (Part.ofArgument_eq_iff argument more).mp hmore.symm]
      exact hrequest
    · obtain ⟨earlier, ⟨before, hbefore, hearlier⟩, hrequest⟩ := hearlier
      rw [Request.withArgument?, Option.bind_eq_bind, Option.bind_eq_some_iff] at hrequest
      obtain ⟨more, hmore, hrequest⟩ := hrequest
      refine ⟨before ++ more, ?_, ?_⟩
      · rw [hbefore, (Part.ofArgument_eq_iff argument more).mpr hmore, List.map_append]
      · rw [List.foldlM_append, hearlier]
        exact hrequest

end LkLexer.Command
