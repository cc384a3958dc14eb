import LkLexer.Command.FileTree
import LkLexer.Proofs.Listing
import LkLexer.Proofs.Parsing
import LkLexer.Proofs.Pointing

/-!
# Outcomes of the command

Whatever the arguments and the files are, the command speaks on one output: what was asked for with code 0 on the
first, complaints with another code on the second. A run succeeds exactly when its file is the text of tokens; it
prints that text, as nothing is lost between the tokens, or their listing, and the diagnostic of the error if there is
one. Only for a text of 2 ^ 32 bytes or more the place of an error can be lost, and with it the diagnostic. Main
statement: this for all arguments and files, whichever parser keeps the law and whichever log shows warnings only, with
the outcome of a request for the version, and with the exit code and complaints, which do not depend on what is to be
printed (`respond_outcome`).
-/

namespace LkLexer.Command

/-- An outcome speaks on one output: on the first with code 0, on the second with code 1 or 2. -/
structure Outcome.OneSided (outcome : Outcome) : Prop where
  code_le : outcome.code ≤ 2
  stderr_eq_nil : outcome.code = 0 → outcome.stderr = []
  stdout_eq_nil : outcome.code ≠ 0 → outcome.stdout = []
  stderr_ne_nil : outcome.code ≠ 0 → outcome.stderr ≠ []

namespace Outcome

/-- What is asked for is printed on the first output. -/
theorem oneSided_success (stdout : Text) : OneSided ⟨0, stdout, []⟩ where
  code_le := Nat.zero_le 2
  stderr_eq_nil := fun _ => rfl
  stdout_eq_nil := fun hcode => absurd rfl hcode
  stderr_ne_nil := fun hcode => absurd rfl hcode

/-- A complaint is printed on the second output. -/
theorem oneSided_failure {code : Nat} {stderr : Text} (hcode : code = 1 ∨ code = 2) (hstderr : stderr ≠ []) :
    OneSided ⟨code, [], stderr⟩ where
  code_le := by simp only; omega
  stderr_eq_nil := fun hzero => by simp only at hzero; omega
  stdout_eq_nil := fun _ => rfl
  stderr_ne_nil := fun _ => hstderr

end Outcome

/-- Where a parser stops, the outcome is one-sided. -/
theorem Parser.Stops.oneSided {parse : Parser} (hstops : parse.Stops) {arguments : List Text} {outcome : Outcome}
    (hparse : parse arguments = .error outcome) : outcome.OneSided := by
  obtain ⟨code, stdout, stderr⟩ := outcome
  rcases hstops arguments _ hparse with ⟨rfl, rfl⟩ | ⟨rfl, rfl, hstderr⟩
  · exact Outcome.oneSided_success stdout
  · exact Outcome.oneSided_failure (Or.inr rfl) hstderr

/-- A line has at least its newline. -/
theorem line_ne_nil (text : Text) : line text ≠ [] :=
  List.append_ne_nil_of_right_ne_nil text (List.cons_ne_nil '\n' [])

/-- A complaint that there is no file is one-sided. -/
theorem oneSided_noFile : Outcome.OneSided ⟨1, [], noFileText⟩ :=
  Outcome.oneSided_failure (Or.inl rfl) (List.append_ne_nil_of_left_ne_nil (line_ne_nil _) _)

/-- A diagnostic is not empty. -/
theorem render?_ne_nil {error : LexError} {path source rendered : Text}
    (hrender : Diagnostic.render? error path source = some rendered) : rendered ≠ [] := by
  obtain ⟨parts, -, rfl⟩ := Option.map_eq_some_iff.mp hrender
  simp

section Run

variable {log : Log} {source : Text} {error : LexError}

/-- A text is run with success if it is accepted under any label: it is printed itself, or its tokens are listed.
A text that is refused is run to the diagnostic of its error. -/
theorem runText_eq (hlog : log.FromWarnings) (path : Text) (listing : Bool) (source : Text) (label? : Option Text) :
    runText log path listing source =
      match tokenize source label? with
      | .ok tokens =>
        some ⟨0, if listing then tokens.flatMap (fun token => token.listing ++ ['\n']) else source ++ ['\n'], []⟩
      | .error error => (Diagnostic.render? error path source).map fun rendered => ⟨1, [], rendered⟩ := by
  have hrecorded : ((endingOf path source).recorded.flatMap fun token => log (.recorded token)) = [] := by
    simp [hlog.eq_nil]
  rw [runText, result_endingOf path source label?, hrecorded]
  cases hlabel : tokenize source label? with
  | ok tokens =>
    simp only [LexResult.relabel, printed_map_relabel, hlog.eq_nil]
    rw [printed, joined_lexemes_of_tokenize_eq_ok hlabel]
    rfl
  | error error => rfl

/-- The diagnostic of a text that is refused is rendered if the text has less than 2 ^ 32 bytes. -/
theorem exists_render?_of_byteLength_lt {label? : Option Text} (hlength : Text.byteLength source < UInt32.size)
    (herror : tokenize source label? = .error error) (path : Text) :
    ∃ rendered, Diagnostic.render? error path source = some rendered := by
  obtain ⟨place, hplace, hposition⟩ := exists_isPlace_of_tokenize_eq_error herror
  have hoffset := Position.toNat_offset_ofPlace_of_isPlace (label?.getD defaultLabel) hlength hplace
  rw [← hposition] at hoffset
  obtain ⟨before, after, rfl, hbefore⟩ := hplace
  obtain ⟨rendered, hrender, -⟩ :=
    Diagnostic.exists_render?_pointsAt error path after (hoffset.trans hbefore.symm) rfl rfl
  exact ⟨rendered, hrender⟩

end Run

section Files

/-- The bytes are those of a text in UTF-8 exactly when they are decoded to it. -/
theorem decodeText_eq_ok_iff (content : ByteArray) (source : Text) :
    decodeText content = .ok source ↔ content = (String.ofList source).toUTF8 := by
  rw [decodeText, String.fromUTF8?]
  by_cases hvalid : content.IsValidUTF8
  · rw [dif_pos hvalid]
    refine ⟨fun hok => ?_, fun hcontent => ?_⟩
    · rw [← Except.ok.inj hok, String.ofList_toList]
      rfl
    · subst hcontent
      exact congrArg Except.ok (String.toList_ofList (l := source))
  · rw [dif_neg hvalid]
    refine ⟨fun hok => ?_, fun hcontent => ?_⟩
    · cases hok
    · subst hcontent
      exact absurd (String.ofList source).isValidUTF8 hvalid

variable {log : Log} {fetch : Text → Except ReadError ByteArray} {path : Text} {listing : Bool} {outcome : Outcome}

/-- A path leads to a file that holds a text in UTF-8. -/
def HoldsText (fetch : Text → Except ReadError ByteArray) (path source : Text) : Prop :=
  fetch path = .ok (String.ofList source).toUTF8

/-- A path leads to a text that is refused, but not all of its places are told apart. -/
def HoldsRefusedBeyond (fetch : Text → Except ReadError ByteArray) (path : Text) : Prop :=
  ∃ source error, HoldsText fetch path source ∧ tokenize source none = .error error ∧
    UInt32.size ≤ Text.byteLength source

/-- A text is read where the path leads to a file that holds it. -/
theorem bind_decodeText_eq_ok_iff (fetch : Text → Except ReadError ByteArray) (path source : Text) :
    (fetch path).bind decodeText = .ok source ↔ HoldsText fetch path source := by
  rw [HoldsText]
  cases fetch path with
  | error error => exact iff_of_false nofun nofun
  | ok content => exact (decodeText_eq_ok_iff content source).trans (Except.ok.injEq _ _ ▸ Iff.rfl)

/-- The outcome is that of running the file at a path: it succeeds when the file holds an accepted text, prints
this text or the listing of its tokens, and shows the diagnostic of a text that is refused. -/
structure Outcome.RunsFile (outcome : Outcome) (fetch : Text → Except ReadError ByteArray) (path : Text)
    (listing : Bool) : Prop where
  code_eq_zero_iff : ∀ label?, outcome.code = 0 ↔
    ∃ source tokens, HoldsText fetch path source ∧ tokenize source label? = .ok tokens
  accepted : ∀ source label? tokens, HoldsText fetch path source → tokenize source label? = .ok tokens →
    outcome.stdout = if listing then tokens.flatMap (fun token => token.listing ++ ['\n']) else source ++ ['\n']
  refused : ∀ source label? error, HoldsText fetch path source → tokenize source label? = .error error →
    Diagnostic.render? error path source = some outcome.stderr

/-- A file that holds a text is run by this text. -/
theorem runFile_of_holdsText {source : Text} (log : Log) (listing : Bool) (hholds : HoldsText fetch path source) :
    runFile log path listing (fetch path) = runText log path listing source := by
  rw [runFile, (bind_decodeText_eq_ok_iff fetch path source).mpr hholds]

/-- Running a file comes to an outcome that is one-sided, unless its text is refused and too long to tell where. -/
theorem exists_runFile_eq (hlog : log.FromWarnings) (path : Text) (listing : Bool) :
    (∃ outcome, runFile log path listing (fetch path) = some outcome ∧ outcome.OneSided) ∨
      runFile log path listing (fetch path) = none ∧ HoldsRefusedBeyond fetch path := by
  cases hread : (fetch path).bind decodeText with
  | error error =>
    rw [runFile, hread]
    exact Or.inl ⟨_, rfl, Outcome.oneSided_failure (Or.inl rfl) (line_ne_nil _)⟩
  | ok source =>
    have hholds := (bind_decodeText_eq_ok_iff fetch path source).mp hread
    rw [runFile_of_holdsText log listing hholds, runText_eq hlog path listing source none]
    cases hresult : tokenize source none with
    | ok tokens => exact Or.inl ⟨_, rfl, Outcome.oneSided_success _⟩
    | error error =>
      change (∃ outcome, Option.map _ _ = some outcome ∧ _) ∨ Option.map _ _ = none ∧ _
      cases hrender : Diagnostic.render? error path source with
      | some rendered =>
        exact Or.inl ⟨_, rfl, Outcome.oneSided_failure (Or.inl rfl) (render?_ne_nil hrender)⟩
      | none =>
        refine Or.inr ⟨rfl, source, error, hholds, hresult, Nat.le_of_not_lt fun hlength => ?_⟩
        obtain ⟨rendered, hrendered⟩ := exists_render?_of_byteLength_lt hlength hresult path
        rw [hrender] at hrendered
        cases hrendered

/-- A file is run by what it holds. -/
theorem runsFile_of_runFile_eq (hlog : log.FromWarnings) (hrun : runFile log path listing (fetch path) = some outcome) :
    outcome.RunsFile fetch path listing where
  code_eq_zero_iff := by
    intro label?
    simp only [← bind_decodeText_eq_ok_iff]
    cases hread : (fetch path).bind decodeText with
    | error error =>
      rw [runFile, hread] at hrun
      obtain rfl := Option.some.inj hrun
      simp
    | ok source =>
      have hholds := (bind_decodeText_eq_ok_iff fetch path source).mp hread
      rw [runFile_of_holdsText log listing hholds, runText_eq hlog path listing source label?] at hrun
      cases hresult : tokenize source label? with
      | ok tokens =>
        rw [hresult] at hrun
        obtain rfl := Option.some.inj hrun
        simp [hresult]
      | error error =>
        rw [hresult] at hrun
        obtain ⟨rendered, -, rfl⟩ := Option.map_eq_some_iff.mp hrun
        simp [hresult]
  accepted := by
    intro source label? tokens hholds hok
    rw [runFile_of_holdsText log listing hholds, runText_eq hlog path listing source label?, hok] at hrun
    obtain rfl := Option.some.inj hrun
    rfl
  refused := by
    intro source label? error hholds herror
    rw [runFile_of_holdsText log listing hholds, runText_eq hlog path listing source label?, herror] at hrun
    obtain ⟨rendered, hrender, rfl⟩ := Option.map_eq_some_iff.mp hrun
    exact hrender

/-- Runs of one file have the same exit code and complaints, whatever is to be printed. -/
theorem exists_runFile_eq_of_listing (found : Except ReadError ByteArray) (other : Bool)
    (hrun : runFile log path listing found = some outcome) :
    ∃ another, runFile log path other found = some another ∧ outcome.code = another.code ∧
      outcome.stderr = another.stderr := by
  rw [runFile] at hrun ⊢
  cases hread : found.bind decodeText with
  | error error =>
    rw [hread] at hrun
    obtain rfl := Option.some.inj hrun
    exact ⟨_, rfl, rfl, rfl⟩
  | ok source =>
    rw [hread] at hrun
    change runText log path listing source = some outcome at hrun
    change ∃ another, runText log path other source = some another ∧ _
    rw [runText] at hrun ⊢
    cases hresult : (endingOf path source).result with
    | ok tokens =>
      rw [hresult] at hrun
      obtain rfl := Option.some.inj hrun
      exact ⟨_, rfl, rfl, rfl⟩
    | error error =>
      rw [hresult] at hrun
      obtain ⟨rendered, hrender, rfl⟩ := Option.map_eq_some_iff.mp hrun
      exact ⟨_, congrArg (Option.map _) hrender, rfl, rfl⟩

end Files

section Respond

variable {parse : Parser} {log : Log} {fetch : Text → Except ReadError ByteArray} {arguments : List Text}
  {request : Request}

/-- A request for the version is answered without a look at files. -/
theorem respond_of_version (log : Log) (fetch : Text → Except ReadError ByteArray)
    (hrequest : parse arguments = .ok request) (hversion : request.version = true) :
    respond (m := Id) parse log fetch arguments = some ⟨0, versionText, []⟩ := by
  rw [respond, hrequest]
  exact if_pos hversion

/-- A request for neither the version nor a file is answered with a complaint. -/
theorem respond_of_no_file (log : Log) (fetch : Text → Except ReadError ByteArray)
    (hrequest : parse arguments = .ok request) (hversion : request.version = false) (hfile : request.file? = none) :
    respond (m := Id) parse log fetch arguments = some ⟨1, [], noFileText⟩ := by
  rw [respond, hrequest]
  simp only [Request.serve, hversion, hfile]
  rfl

/-- A request for a run, but not for the version, is answered by the run. -/
theorem respond_of_file (log : Log) (fetch : Text → Except ReadError ByteArray)
    (hrequest : parse arguments = .ok request) (hversion : request.version = false) {path : Text}
    (hfile : request.file? = some path) :
    respond (m := Id) parse log fetch arguments = runFile log path request.tokens (fetch path) := by
  rw [respond, hrequest]
  simp only [Request.serve, hversion, hfile]
  rfl

/-- There is an outcome and it is one-sided, unless a file is to be run whose text is refused and too long to tell
where. -/
theorem exists_respond_eq (hstops : parse.Stops) (hlog : log.FromWarnings)
    (fetch : Text → Except ReadError ByteArray) (arguments : List Text) :
    (∃ outcome, respond (m := Id) parse log fetch arguments = some outcome ∧ outcome.OneSided) ∨
      respond (m := Id) parse log fetch arguments = none ∧ ∃ request path, parse arguments = .ok request ∧
        request.version = false ∧ request.file? = some path ∧ HoldsRefusedBeyond fetch path := by
  cases hparse : parse arguments with
  | error outcome =>
    rw [respond, hparse]
    exact Or.inl ⟨outcome, rfl, hstops.oneSided hparse⟩
  | ok request =>
    cases hversion : request.version with
    | true =>
      exact Or.inl ⟨_, respond_of_version log fetch hparse hversion, Outcome.oneSided_success versionText⟩
    | false =>
      cases hfile : request.file? with
      | none => exact Or.inl ⟨_, respond_of_no_file log fetch hparse hversion hfile, oneSided_noFile⟩
      | some path =>
        rw [respond_of_file log fetch hparse hversion hfile]
        refine (exists_runFile_eq hlog path request.tokens).imp_right fun hbeyond => ?_
        exact ⟨hbeyond.1, request, path, rfl, hversion, hfile, hbeyond.2⟩

/-- Requests that differ at most in whether tokens are to be listed have the same exit code and complaints. -/
theorem exists_respond_eq_of_same {outcome : Outcome}
    (houtcome : respond (m := Id) parse log fetch arguments = some outcome)
    (hrequest : parse arguments = .ok request) {others : List Text} {other : Request}
    (hother : parse others = .ok other) (hversion : request.version = other.version)
    (hfile : request.file? = other.file?) :
    ∃ another, respond (m := Id) parse log fetch others = some another ∧ outcome.code = another.code ∧
      outcome.stderr = another.stderr := by
  cases hasked : request.version with
  | true =>
    rw [respond_of_version log fetch hrequest hasked] at houtcome
    obtain rfl := Option.some.inj houtcome
    exact ⟨_, respond_of_version log fetch hother (hversion.symm.trans hasked), rfl, rfl⟩
  | false =>
    have hunasked := hversion.symm.trans hasked
    cases hnamed : request.file? with
    | none =>
      rw [respond_of_no_file log fetch hrequest hasked hnamed] at houtcome
      obtain rfl := Option.some.inj houtcome
      exact ⟨_, respond_of_no_file log fetch hother hunasked (hfile.symm.trans hnamed), rfl, rfl⟩
    | some path =>
      rw [respond_of_file log fetch hrequest hasked hnamed] at houtcome
      rw [respond_of_file log fetch hother hunasked (hfile.symm.trans hnamed)]
      exact exists_runFile_eq_of_listing (fetch path) other.tokens houtcome

/-- The outcome of the command for all arguments and files. There is one, and it speaks on one output, unless a file is
to be run whose text is refused and has 2 ^ 32 bytes or more. Arguments that come to a request get the version,
whatever else they ask for, or the run of their file; and two requests that differ only in whether tokens are to be
listed get the same exit code and complaints. -/
theorem respond_outcome (hstops : parse.Stops) (hlog : log.FromWarnings)
    (fetch : Text → Except ReadError ByteArray) (arguments : List Text) :
    (∃ outcome, respond (m := Id) parse log fetch arguments = some outcome ∧ outcome.OneSided ∧
      ∀ request, parse arguments = .ok request →
        (request.version = true → outcome = ⟨0, versionText, []⟩) ∧
        (request.version = false → ∀ path, request.file? = some path →
          outcome.RunsFile fetch path request.tokens) ∧
        ∀ others other, parse others = .ok other →
          request.version = other.version → request.file? = other.file? →
            ∃ another, respond (m := Id) parse log fetch others = some another ∧ outcome.code = another.code ∧
              outcome.stderr = another.stderr) ∨
      respond (m := Id) parse log fetch arguments = none ∧ ∃ request path, parse arguments = .ok request ∧
        request.version = false ∧ request.file? = some path ∧ HoldsRefusedBeyond fetch path := by
  refine (exists_respond_eq hstops hlog fetch arguments).imp_left fun hanswered => ?_
  obtain ⟨outcome, houtcome, honeSided⟩ := hanswered
  refine ⟨outcome, houtcome, honeSided, fun request hrequest => ⟨?_, ?_, ?_⟩⟩
  · intro hversion
    exact Option.some.inj (houtcome.symm.trans (respond_of_version log fetch hrequest hversion))
  · intro hversion path hfile
    rw [respond_of_file log fetch hrequest hversion hfile] at houtcome
    exact runsFile_of_runFile_eq hlog houtcome
  · intro others other hother hversion hfile
    exact exists_respond_eq_of_same houtcome hrequest hother hversion hfile

/-- The tokens of a file in a directory are listed when a letter asks for them. -/
theorem stdout_respond_listing :
    let source := "a\n".toList
    let path := "d/a.lk".toList
    let tree := FileTree.ofPaths [(path, .file (String.ofList source).toUTF8)]
    let log := Log.upTo .warn fun _ => "event".toList
    Parser.Stops parseArguments ∧ log.FromWarnings ∧
      parseArguments ["-t".toList, path] = .ok ⟨false, true, some path⟩ ∧ HoldsText tree.fetch path source ∧
      ∃ outcome, respond (m := Id) parseArguments log tree.fetch ["-t".toList, path] = some outcome ∧
        outcome.stdout = "Identifier (\"a\") 0..1\nNewline (\"\\n\") 1..2\n".toList := by
  intro source path tree log
  have hrequest : parseArguments ["-t".toList, path] = .ok ⟨false, true, some path⟩ := by decide +kernel
  have hlocate : tree.locate path = .ok (.below ["d".toList, "a.lk".toList]) := by decide +kernel
  have hholds : HoldsText tree.fetch path source := by
    rw [HoldsText, FileTree.fetch, hlocate]
    rfl
  have hok : tokenize source none = .ok [⟨⟨.identifier, "a".toList⟩, .between defaultLabel 0 1⟩,
      ⟨⟨.newline, "\n".toList⟩, .between defaultLabel 1 2⟩] := by decide +kernel
  have hlog := Log.fromWarnings_upTo fun _ => "event".toList
  refine ⟨stops_parseArguments, hlog, hrequest, hholds, ?_⟩
  rcases respond_outcome stops_parseArguments hlog tree.fetch ["-t".toList, path] with hanswered | hbroken
  · obtain ⟨outcome, houtcome, -, hlaws⟩ := hanswered
    obtain ⟨-, hrun, -⟩ := hlaws _ hrequest
    refine ⟨outcome, houtcome, ?_⟩
    rw [(hrun rfl path rfl).accepted source none _ hholds hok]
    decide +kernel
  · obtain ⟨request, other, hparse, -, hfile, text, error, hheld, herror, -⟩ := hbroken.2
    -- The file that is asked for holds the accepted text.
    obtain rfl := Except.ok.inj (hrequest.symm.trans hparse)
    obtain rfl := Option.some.inj hfile
    obtain rfl : source = text := by
      rw [← bind_decodeText_eq_ok_iff] at hholds hheld
      exact Except.ok.inj (hholds.symm.trans hheld)
    rw [hok] at herror
    cases herror

end Respond

end LkLexer.Command
