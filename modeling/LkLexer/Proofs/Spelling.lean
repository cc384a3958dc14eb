import LkLexer.Command.FileTree
import LkLexer.Proofs.Parsing
import Mathlib.Data.List.Induction

/-!
# Spellings of the arguments

A parser reads arguments from left to right, and what was read before decides whether an option is a repeated one, or
a file a second one. Still the arguments that come to a request do so in every order: one item after another can be
added to a request exactly when they can be added the other way round, with the same request in the end
(`Request.withItem?_comm`). So arguments may be put in another order, and an option may be given alone or in a cluster,
by its letter or by its name. Main statement: whichever parser reads arguments in turn, the command answers all such
spellings alike (`respond_eq_of_respelled`).
-/

namespace LkLexer.Command

/-- Where two steps can be taken in either order, many steps can be taken in every order. -/
theorem foldlM_eq_of_perm {σ α : Type} {step : σ → α → Option σ}
    (hcomm : ∀ state a b, ((step state a).bind fun next => step next b) = (step state b).bind fun next => step next a)
    {steps others : List α} (hperm : steps.Perm others) (state : σ) :
    steps.foldlM step state = others.foldlM step state := by
  induction hperm generalizing state with
  | nil => rfl
  | cons a _ ih =>
    rw [List.foldlM_cons, List.foldlM_cons]
    exact congrArg (step state a).bind (funext ih)
  | swap a b later =>
    simp only [List.foldlM_cons, Option.bind_eq_bind, ← Option.bind_assoc]
    rw [hcomm]
  | trans _ _ ih ih' => exact (ih state).trans (ih' state)

namespace Request

variable (request : Request)

/-- An option and a file are added to a request in either order. -/
theorem withItem?_option_file (switch : Switch) (path : Text) :
    ((request.withItem? (.option switch)).bind fun next => next.withItem? (.file path)) =
      (request.withItem? (.file path)).bind fun next => next.withItem? (.option switch) := by
  obtain ⟨version, tokens, file?⟩ := request
  -- The file is refused for reasons of its own, whatever the options are.
  by_cases hrefused : path = [] ∨ file?.isSome <;>
    cases switch <;> cases version <;> cases tokens <;> simp [withItem?, hrefused]

/-- Two items are added to a request in either order. -/
theorem withItem?_comm (a b : Item) :
    ((request.withItem? a).bind fun next => next.withItem? b) =
      (request.withItem? b).bind fun next => next.withItem? a := by
  cases a with
  | option switch =>
    cases b with
    | option other =>
      obtain ⟨version, tokens, file?⟩ := request
      cases switch <;> cases other <;> cases version <;> cases tokens <;> rfl
    | file path => exact request.withItem?_option_file switch path
  | file path =>
    cases b with
    | option switch => exact (request.withItem?_option_file switch path).symm
    | file other =>
      -- One of two files comes second, whichever it is.
      by_cases hrefused : path = [] ∨ other = [] ∨ request.file?.isSome
      · rcases hrefused with hpath | hother | hfile <;> simp [withItem?, *]
      · simp only [not_or] at hrefused
        simp [withItem?, hrefused]

/-- A request with more arguments, one after another. -/
def withArguments? (arguments : List Text) : Option Request :=
  arguments.foldlM withArgument? request

/-- Two arguments are added to a request in either order. -/
theorem withArgument?_comm (argument other : Text) :
    ((request.withArgument? argument).bind fun next => next.withArgument? other) =
      (request.withArgument? other).bind fun next => next.withArgument? argument := by
  cases hargument : Item.ofArgument? argument with
  | none => simp [withArgument?, hargument]
  | some items =>
    cases hother : Item.ofArgument? other with
    | none => simp [withArgument?, hargument, hother]
    | some more =>
      have hmoved := foldlM_eq_of_perm withItem?_comm (@List.perm_append_comm _ items more) request
      rw [List.foldlM_append, List.foldlM_append] at hmoved
      simpa [withArgument?, hargument, hother] using hmoved

variable {request}

/-- An argument that stands for one option adds it. -/
theorem withArgument?_of_option {argument : Text} {switch : Switch}
    (hargument : Item.ofArgument? argument = some [.option switch]) :
    request.withArgument? argument = request.withItem? (.option switch) := by
  simp [withArgument?, hargument]

end Request

namespace Item

/-- A cluster of letters stands for their options. -/
theorem ofArgument?_cluster {switches : List Switch} (hswitches : switches ≠ []) :
    ofArgument? ('-' :: switches.map Switch.letter) = some (switches.map option) := by
  obtain ⟨first, later, rfl⟩ := List.exists_cons_of_ne_nil hswitches
  -- The first letter is no dash, so this is not an option by its name.
  have hletters : ofArgument? ('-' :: (first :: later).map Switch.letter) =
      ((first :: later).map Switch.letter).mapM fun letter => (Switch.ofLetter? letter).map option := by
    cases first <;> rfl
  rw [hletters, List.mapM_map]
  simp only [Function.comp_def, Switch.ofLetter?_letter, Option.map_some]
  exact List.mapM_pure

/-- The letter of an option, given alone, stands for it. -/
theorem ofArgument?_letter (switch : Switch) : ofArgument? ['-', switch.letter] = some [option switch] :=
  ofArgument?_cluster (List.cons_ne_nil switch [])

/-- The name of an option stands for it. -/
theorem ofArgument?_long (switch : Switch) : ofArgument? switch.long = some [option switch] := by
  cases switch <;> decide +kernel

end Item

/-- A cluster of letters adds the same options as these letters one by one, in any order. -/
theorem Request.withArgument?_cluster (request : Request) {switches others : List Switch} (hswitches : switches ≠ [])
    (hperm : switches.Perm others) :
    request.withArgument? ('-' :: switches.map Switch.letter) =
      request.withArguments? (others.map fun switch => ['-', switch.letter]) := by
  calc request.withArgument? ('-' :: switches.map Switch.letter)
    _ = (switches.map Item.option).foldlM withItem? request := by
      rw [withArgument?, Item.ofArgument?_cluster hswitches]
      rfl
    _ = (others.map Item.option).foldlM withItem? request :=
      foldlM_eq_of_perm withItem?_comm (hperm.map Item.option) request
    _ = request.withArguments? (others.map fun switch => ['-', switch.letter]) := by
      rw [withArguments?, List.foldlM_map, List.foldlM_map]
      simp only [withArgument?_of_option (Item.ofArgument?_letter _)]

/-- Arguments are another spelling of others: in another order, with a cluster of letters in place of one argument
for each, or with the name of an option in place of its letter; the other way round; and one after another. -/
inductive Respelled : List Text → List Text → Prop
  | perm {arguments others : List Text} : arguments.Perm others → Respelled arguments others
  | cluster (front back : List Text) {switches others : List Switch} : switches ≠ [] → switches.Perm others →
      Respelled (front ++ ('-' :: switches.map Switch.letter) :: back)
        (front ++ (others.map fun switch => ['-', switch.letter]) ++ back)
  | long (front back : List Text) (switch : Switch) :
      Respelled (front ++ ['-', switch.letter] :: back) (front ++ switch.long :: back)
  | symm {arguments others : List Text} : Respelled arguments others → Respelled others arguments
  | trans {arguments others more : List Text} : Respelled arguments others → Respelled others more →
      Respelled arguments more

namespace Respelled

variable {arguments others : List Text}

/-- No cluster ends the options. -/
theorem dashes_ne_cluster (switches : List Switch) : "--".toList ≠ '-' :: switches.map Switch.letter := by
  cases switches with
  | nil => decide
  | cons switch later => cases switch <;> exact fun heq => absurd (List.cons.inj (List.cons.inj heq).2).1 (by decide)

/-- No name of an option ends the options. -/
theorem dashes_ne_long (switch : Switch) : "--".toList ≠ switch.long := by
  cases switch <;> decide

/-- No spelling brings in or takes away an argument that ends the options. -/
theorem mem_iff (hrespelled : Respelled arguments others) : "--".toList ∈ arguments ↔ "--".toList ∈ others := by
  induction hrespelled with
  | perm hperm => exact hperm.mem_iff
  | @cluster front back switches others =>
    have hletters : "--".toList ∉ others.map fun switch => ['-', switch.letter] := by
      intro hmem
      obtain ⟨switch, -, heq⟩ := List.mem_map.mp hmem
      exact dashes_ne_cluster [switch] heq.symm
    simp only [List.mem_append, List.mem_cons, dashes_ne_cluster, hletters, false_or, or_false]
  | long front back switch =>
    have hletter : "--".toList ≠ ['-', switch.letter] := dashes_ne_cluster [switch]
    simp only [List.mem_append, List.mem_cons, hletter, dashes_ne_long, false_or]
  | symm _ ih => exact ih.symm
  | trans _ _ ih ih' => exact ih.trans ih'

/-- Spellings of the same arguments add the same to every request. -/
theorem withArguments?_eq (hrespelled : Respelled arguments others) (request : Request) :
    request.withArguments? arguments = request.withArguments? others := by
  induction hrespelled generalizing request with
  | perm hperm => exact foldlM_eq_of_perm Request.withArgument?_comm hperm request
  | cluster front back hswitches hperm =>
    have hadds (next : Request) := next.withArgument?_cluster hswitches hperm
    simp only [Request.withArguments?] at hadds ⊢
    simp only [List.foldlM_append, List.foldlM_cons, hadds, bind_assoc]
  | long front back switch =>
    simp only [Request.withArguments?, List.foldlM_append, List.foldlM_cons,
      Request.withArgument?_of_option (Item.ofArgument?_letter switch),
      Request.withArgument?_of_option (Item.ofArgument?_long switch)]
  | symm _ ih => exact (ih request).symm
  | trans _ _ ih ih' => exact (ih request).trans (ih' request)

end Respelled

/-- A parser that reads arguments in turn comes to the request of these arguments. -/
theorem Parser.ReadsInTurn.eq_ok_iff {parse : Parser} (hparse : parse.ReadsInTurn) {arguments : List Text}
    (hdashes : "--".toList ∉ arguments) (request : Request) :
    parse arguments = .ok request ↔ Request.nothing.withArguments? arguments = some request := by
  induction arguments using List.reverseRecOn generalizing request with
  | nil => rw [hparse.nil, Except.ok.injEq, Request.withArguments?, List.foldlM_nil, Option.pure_def, Option.some.injEq]
  | append_singleton front argument ih =>
    have hfront : "--".toList ∉ front := fun hmem => hdashes (List.mem_append_left _ hmem)
    rw [hparse.snoc front argument request hdashes, Request.withArguments?, List.foldlM_append, Option.bind_eq_bind,
      Option.bind_eq_some_iff]
    simp only [List.foldlM_cons, List.foldlM_nil, bind_pure]
    exact exists_congr fun earlier => and_congr_left fun _ => ih hfront earlier

/-- The command answers alike, whichever parser reads arguments in turn and whatever files there are, however arguments
are spelled that come to a request and of which none ends the options. -/
theorem respond_eq_of_respelled {m : Type → Type} [Monad m] {parse : Parser} (hparse : parse.ReadsInTurn) (log : Log)
    (fetch : Text → m (Except ReadError ByteArray)) {arguments others : List Text} {request : Request}
    (hrespelled : Respelled arguments others) (hdashes : "--".toList ∉ arguments)
    (hrequest : parse arguments = .ok request) :
    respond parse log fetch others = respond parse log fetch arguments := by
  have hothers : "--".toList ∉ others := mt hrespelled.mem_iff.mpr hdashes
  have hrespelling : parse others = .ok request := by
    rw [hparse.eq_ok_iff hothers, ← hrespelled.withArguments?_eq]
    exact (hparse.eq_ok_iff hdashes request).mp hrequest
  rw [respond, respond, hrequest, hrespelling]

/-- A cluster is taken apart, an option named and a lone dash put first, which stays a file. -/
theorem respond_respelled_lone_dash :
    let fetch := (FileTree.ofPaths [("-".toList, .file (String.ofList "a\n".toList).toUTF8)]).fetch
    let log := Log.upTo .warn fun _ => "event".toList
    let arguments := ["-tv".toList, "-".toList]
    let others := ["-".toList, "--version".toList, "-t".toList]
    Parser.ReadsInTurn parseArguments ∧ Respelled arguments others ∧ "--".toList ∉ arguments ∧
      parseArguments arguments = .ok ⟨true, true, some "-".toList⟩ ∧
      respond (m := Id) parseArguments log fetch others = respond (m := Id) parseArguments log fetch arguments := by
  intro fetch log arguments others
  have hdashes : "--".toList ∉ arguments := by decide
  have hrequest : parseArguments arguments = .ok ⟨true, true, some "-".toList⟩ := by decide +kernel
  have happart : Respelled arguments ["-v".toList, "-t".toList, "-".toList] :=
    @Respelled.cluster [] ["-".toList] [.tokens, .version] [.version, .tokens] (by decide) (.swap _ _ [])
  have hnamed : Respelled ["-v".toList, "-t".toList, "-".toList] ["--version".toList, "-t".toList, "-".toList] :=
    .long [] ["-t".toList, "-".toList] .version
  have hmoved : Respelled ["--version".toList, "-t".toList, "-".toList] others :=
    .perm (@List.perm_append_comm _ ["--version".toList, "-t".toList] ["-".toList])
  have hrespelled := (happart.trans hnamed).trans hmoved
  exact ⟨readsInTurn_parseArguments, hrespelled, hdashes, hrequest,
    respond_eq_of_respelled readsInTurn_parseArguments log fetch hrespelled hdashes hrequest⟩

end LkLexer.Command
