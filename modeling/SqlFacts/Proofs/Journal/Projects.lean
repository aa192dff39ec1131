import Mathlib.Data.List.Forall2
import SqlFacts.Proofs.Journal.DayFiles
import SqlFacts.Proofs.Journal.History

/-!
# Directories of projects

The directory of a project is named after the path of the project, with hyphens for the slashes.
Projects whose paths hold no hyphens have directories of their own. Paths that tell slashes and
hyphens apart and nothing else lead to one directory, and there the files of one project are
written and deleted from the other.
-/

namespace SqlFacts

open Calendar (Date Instant)
open Journal (directoryName fileName projectName)

/-- A part of a normalised path: a name without slashes that is neither the directory itself nor
the one around it. -/
structure PathPart where
  chars : List Char
  ne_nil : chars ≠ []
  slash_not_mem : '/' ∉ chars
  ne_point : chars ≠ ['.']
  ne_twoPoints : chars ≠ ['.', '.']

/-- A normalised absolute path, told by its parts. -/
structure WorkingDirectory where
  parts : List PathPart

/-- Tests for the characters that are not told apart in the names of directories. -/
def isJoint (c : Char) : Bool := c == '/' || c == '-'

namespace WorkingDirectory

/-- The characters of the parts. -/
def names (w : WorkingDirectory) : List (List Char) := w.parts.map (·.chars)

/-- The path as it is written. -/
def path (w : WorkingDirectory) : String := String.ofList ('/' :: ['/'].intercalate w.names)

/-- The path behind all slashes and hyphens that it begins with. -/
def body (w : WorkingDirectory) : List Char := w.path.toList.dropWhile isJoint

/-- Two paths lead to one directory: behind the slashes and hyphens in front they differ at most in
some places where one has a slash and the other a hyphen, or in neither is there more than a
point. -/
def Confusable (p q : WorkingDirectory) : Prop :=
  List.Forall₂ (fun a b => a = b ∨ isJoint a = true ∧ isJoint b = true) p.body q.body ∨
    p.body ∈ [[], ['.']] ∧ q.body ∈ [[], ['.']]

end WorkingDirectory

/-- A character as it stands in the name of a project. -/
private def hyphened (c : Char) : Char := if c == '/' then '-' else c

private theorem hyphened_eq_hyphen_iff (c : Char) : hyphened c = '-' ↔ isJoint c = true := by
  by_cases h : c = '/'
  · simp [hyphened, isJoint, h]
  · simp [hyphened, isJoint, h]

private theorem hyphened_of_not_joint {c : Char} (h : isJoint c = false) : hyphened c = c := by
  rw [isJoint, Bool.or_eq_false_iff] at h
  rw [hyphened, h.1]
  rfl

private theorem hyphened_eq_iff (a b : Char) :
    hyphened a = hyphened b ↔ a = b ∨ isJoint a = true ∧ isJoint b = true := by
  constructor
  · intro h
    by_cases ha : isJoint a = true
    · have hb : hyphened b = '-' := h ▸ (hyphened_eq_hyphen_iff a).mpr ha
      exact .inr ⟨ha, (hyphened_eq_hyphen_iff b).mp hb⟩
    · have hb : ¬ isJoint b = true := by
        intro hb
        exact ha ((hyphened_eq_hyphen_iff a).mp (h.trans ((hyphened_eq_hyphen_iff b).mpr hb)))
      rw [Bool.not_eq_true] at ha hb
      rw [hyphened_of_not_joint ha, hyphened_of_not_joint hb] at h
      exact .inl h
  · rintro (rfl | ⟨ha, hb⟩)
    · rfl
    · rw [(hyphened_eq_hyphen_iff a).mpr ha, (hyphened_eq_hyphen_iff b).mpr hb]

namespace WorkingDirectory

variable {p q : WorkingDirectory}

/-! ### Names of directories -/

theorem projectName_path (p : WorkingDirectory) :
    projectName p.path = String.ofList (p.body.map hyphened) := by
  have hjoint : (· == '-') ∘ hyphened = isJoint := by
    funext c
    rw [Bool.eq_iff_iff, Function.comp_apply, beq_iff_eq, hyphened_eq_hyphen_iff]
  rw [body, ← hjoint, ← List.dropWhile_map]
  rfl

/-- The names of two projects are the same if their paths differ only in slashes and hyphens. -/
theorem projectName_eq_iff :
    projectName p.path = projectName q.path ↔
      List.Forall₂ (fun a b => a = b ∨ isJoint a = true ∧ isJoint b = true) p.body q.body := by
  rw [projectName_path, projectName_path, String.ofList_inj, ← List.forall₂_eq_eq_eq,
    List.forall₂_map_left_iff, List.forall₂_map_right_iff]
  simp only [hyphened_eq_iff]

theorem projectName_eq_empty_iff : projectName p.path = "" ↔ p.body = [] := by
  rw [projectName_path, ← String.toList_inj, String.toList_ofList]
  exact List.map_eq_nil_iff

theorem projectName_eq_point_iff : projectName p.path = "." ↔ p.body = ['.'] := by
  rw [projectName_path, ← String.toList_inj, String.toList_ofList]
  constructor
  · intro h
    obtain ⟨c, hbody, hc⟩ := List.map_eq_singleton_iff.mp h
    have hpoint : c = '.' ∨ isJoint c = true ∧ isJoint '.' = true := (hyphened_eq_iff c '.').mp hc
    rcases hpoint with rfl | ⟨-, hjoint⟩
    · exact hbody
    · cases hjoint
  · intro h
    rw [h]
    rfl

/-- Two projects have one directory if their paths are told apart by nothing but slashes and
hyphens. -/
theorem directoryName_eq_iff :
    directoryName p.path = directoryName q.path ↔ p.Confusable q := by
  rw [Confusable, ← projectName_eq_iff]
  simp only [List.mem_cons, List.not_mem_nil, or_false, ← projectName_eq_empty_iff,
    ← projectName_eq_point_iff, directoryName]
  generalize projectName p.path = a, projectName q.path = b
  grind

/-! ### Paths without hyphens -/

/-- Parts joined by slashes are read back between the slashes. -/
theorem splitOn_intercalate_names (p : WorkingDirectory) (h : p.parts ≠ []) :
    (['/'].intercalate p.names).splitOn '/' = p.names := by
  apply List.splitOn_intercalate
  · exact List.forall_mem_map.mpr fun part _ => part.slash_not_mem
  · exact fun hnil => h (List.map_eq_nil_iff.mp hnil)

/-- A path is told by its parts. -/
theorem eq_of_intercalate_eq (h : ['/'].intercalate p.names = ['/'].intercalate q.names) :
    p = q := by
  have hchars : Function.Injective PathPart.chars := by
    rintro ⟨a, _⟩ ⟨b, _⟩ rfl
    rfl
  have hnil (w : WorkingDirectory) : ['/'].intercalate w.names = [] → w.parts = [] := by
    intro hempty
    by_contra hparts
    have hnames := w.splitOn_intercalate_names hparts
    rw [hempty] at hnames
    obtain ⟨part, _, hpart⟩ := List.map_eq_singleton_iff.mp hnames.symm
    exact part.ne_nil hpart
  have hnames : p.names = q.names := by
    by_cases hp : p.parts = []
    · have hempty : ['/'].intercalate p.names = [] := by
        rw [names, hp]
        rfl
      rw [names, names, hp, hnil q (h.symm.trans hempty)]
    · have hq : q.parts ≠ [] := by
        intro hq
        have hempty : ['/'].intercalate q.names = [] := by
          rw [names, hq]
          rfl
        exact hp (hnil p (h.trans hempty))
      rw [← p.splitOn_intercalate_names hp, h, q.splitOn_intercalate_names hq]
  obtain ⟨parts⟩ := p
  obtain ⟨parts'⟩ := q
  exact congrArg mk (List.map_injective_iff.mpr hchars hnames)

/-- A character that neither the separator nor the lists hold is not in their join. -/
private theorem not_mem_intercalate {c : Char} {separator : List Char} (hc : c ∉ separator)
    {lists : List (List Char)} (h : ∀ list ∈ lists, c ∉ list) :
    c ∉ separator.intercalate lists := by
  induction lists with
  | nil => exact List.not_mem_nil
  | cons list lists ih =>
    obtain ⟨hlist, hlists⟩ := List.forall_mem_cons.mp h
    cases lists with
    | nil => rwa [List.intercalate_singleton]
    | cons next others =>
      rw [List.intercalate_cons_cons, List.mem_append, List.mem_append, not_or, not_or]
      exact ⟨⟨hlist, hc⟩, ih hlists⟩

/-- Of a path without hyphens only the slash in front is passed over. -/
theorem body_of_no_hyphen (h : ∀ part ∈ p.parts, '-' ∉ part.chars) :
    p.body = ['/'].intercalate p.names := by
  have hfirst : p.body = (['/'].intercalate p.names).dropWhile isJoint := by
    rw [body, path, String.toList_ofList]
    rfl
  rw [hfirst, names]
  cases hparts : p.parts with
  | nil => rfl
  | cons part parts =>
    obtain ⟨c, chars, hchars⟩ := List.exists_cons_of_ne_nil part.ne_nil
    have hc : isJoint c = false := by
      have hslash := part.slash_not_mem
      have hhyphen := h part (by simp [hparts])
      rw [hchars, List.mem_cons, not_or] at hslash hhyphen
      simp [isJoint, Ne.symm hslash.1, Ne.symm hhyphen.1]
    cases parts with
    | nil => simp [hchars, hc]
    | cons next others => simp [hchars, hc, List.intercalate_cons_cons]

/-- No path consists of a point. -/
theorem intercalate_names_ne_point (p : WorkingDirectory) : ['/'].intercalate p.names ≠ ['.'] := by
  intro hpoint
  have hparts : p.parts ≠ [] := by
    intro hnil
    rw [names, hnil] at hpoint
    cases hpoint
  have hnames := p.splitOn_intercalate_names hparts
  rw [hpoint] at hnames
  obtain ⟨part, _, hpart⟩ := List.map_eq_singleton_iff.mp hnames.symm
  exact part.ne_point hpart

/-- Lists are equal if related elements of them are. -/
private theorem eq_of_forall₂ {r : Char → Char → Prop} {front back : List Char}
    (h : List.Forall₂ r front back) (heq : ∀ a ∈ front, ∀ b ∈ back, r a b → a = b) :
    front = back := by
  induction h with
  | nil => rfl
  | @cons a b front back hab hrest ih =>
    obtain rfl : a = b := heq a List.mem_cons_self b List.mem_cons_self hab
    rw [ih fun c hc d hd => heq c (List.mem_cons_of_mem _ hc) d (List.mem_cons_of_mem _ hd)]

/-- Different paths without hyphens lead to different directories. -/
theorem eq_of_confusable (hp : ∀ part ∈ p.parts, '-' ∉ part.chars)
    (hq : ∀ part ∈ q.parts, '-' ∉ part.chars) (h : p.Confusable q) : p = q := by
  have hjoint {w : WorkingDirectory} (hw : ∀ part ∈ w.parts, '-' ∉ part.chars) :
      ∀ c ∈ w.body, isJoint c = true → c = '/' := by
    intro c hc hjoint
    have hhyphen : '-' ∉ w.body := by
      rw [body_of_no_hyphen hw]
      exact not_mem_intercalate (by decide) (List.forall_mem_map.mpr hw)
    rw [isJoint, Bool.or_eq_true, beq_iff_eq, beq_iff_eq] at hjoint
    exact hjoint.resolve_right fun hhere => hhyphen (hhere ▸ hc)
  apply eq_of_intercalate_eq
  rw [← body_of_no_hyphen hp, ← body_of_no_hyphen hq]
  rcases h with halike | ⟨hpshort, hqshort⟩
  · apply eq_of_forall₂ halike
    rintro a ha b hb (hab | ⟨hajoint, hbjoint⟩)
    · exact hab
    · rw [hjoint hp a ha hajoint, hjoint hq b hb hbjoint]
  · have hempty {w : WorkingDirectory} (hw : ∀ part ∈ w.parts, '-' ∉ part.chars)
        (hshort : w.body ∈ [[], ['.']]) : w.body = [] := by
      have hpoint : w.body ≠ ['.'] := by
        rw [body_of_no_hyphen hw]
        exact w.intercalate_names_ne_point
      simpa [hpoint] using hshort
    rw [hempty hp hpshort, hempty hq hqshort]

end WorkingDirectory

/-! ### Steps taken in a directory -/

namespace Session

/-- Tests whether a step stays in the working directory. -/
def Step.stays : Step → Bool
  | .changeDirectory _ => false
  | _ => true

/-- A step that stays keeps the working directory. -/
theorem workingDirectory_step {session : Session} {next : Step} (h : next.stays = true) :
    (session.step next).workingDirectory = session.workingDirectory := by
  cases next with
  | log dialect d => rfl
  | cleanup retentionDays =>
    rw [step, cleanup]
    cases session.journal.cleanup session.directory session.clock.date retentionDays <;> rfl
  | setClock clock => rfl
  | changeDirectory workingDirectory => cases h

/-- A step changes no file of another directory than the current one. -/
theorem lines?_step_of_ne {session : Session} {directory : String}
    (h : directory ≠ session.directory) (next : Step) (file : String) :
    (session.step next).journal.lines? directory file =
      session.journal.lines? directory file := by
  cases next with
  | log dialect d => rw [step, lines?_log, if_neg fun hfile => h hfile.1]
  | cleanup retentionDays => rw [lines?_cleanup, if_neg fun hfile => h hfile.1.1]
  | setClock clock => rfl
  | changeDirectory workingDirectory => rfl

/-- Steps that stay in a directory change no file of another one. -/
theorem lines?_run_of_ne {session : Session} {directory : String}
    (h : directory ≠ session.directory) {steps : List Step}
    (hsteps : ∀ next ∈ steps, next.stays = true) (file : String) :
    (session.run steps).journal.lines? directory file =
      session.journal.lines? directory file := by
  induction steps generalizing session with
  | nil => rfl
  | cons next steps ih =>
    obtain ⟨hnext, hrest⟩ := List.forall_mem_cons.mp hsteps
    have hdirectory : (session.step next).directory = session.directory :=
      congrArg directoryName (workingDirectory_step hnext)
    calc
      ((session.step next).run steps).journal.lines? directory file
        = (session.step next).journal.lines? directory file := ih (hdirectory ▸ h) hrest
      _ = session.journal.lines? directory file := lines?_step_of_ne h next file

/-- A cleanup in the directory of a file deletes it once its day is past the retention time. -/
theorem lines?_cleanup_of_past {session : Session} {day : Date} {retentionDays : Int}
    (hreaches : session.journal.reaches session.directory = true) (hyear : 1000 ≤ day.year)
    (hretention : 0 ≤ retentionDays)
    (hpast : day.ordinal + retentionDays < session.clock.date.ordinal) :
    (session.step (.cleanup retentionDays)).journal.lines? session.directory (fileName day) =
      none := by
  obtain ⟨limit, hlimit, hbefore⟩ := Date.exists_daysBefore? hretention hpast
  rw [lines?_cleanup, hlimit, Option.any_some]
  exact if_pos ⟨⟨rfl, hreaches⟩, (Journal.isStale_fileName limit day).mpr ⟨hyear, hbefore⟩⟩

end Session

namespace WorkingDirectory

variable {p q : WorkingDirectory}

/-- Whatever is logged and cleaned up in the first directory, and at whatever times, no file that
belongs to the second one changes. -/
def KeepsApart (p q : WorkingDirectory) : Prop :=
  ∀ (session : Session) (steps : List Session.Step), session.workingDirectory = p.path →
    (∀ next ∈ steps, next.stays = true) → ∀ file,
      (session.run steps).journal.lines? (directoryName q.path) file =
        session.journal.lines? (directoryName q.path) file

/-- The directory of a project that can be confused with another one is that of the other. -/
theorem directory_of_confusable (h : p.Confusable q) (clock : Instant) (journal : Journal) :
    (Session.mk clock p.path journal).directory = directoryName q.path :=
  directoryName_eq_iff.mpr h

/-- What is logged in a directory goes to the files of every confusable one. -/
theorem lines?_log_of_confusable (h : p.Confusable q) (clock : Instant) (journal : Journal)
    (dialect : Option String) (d : Descriptor) :
    ((Session.mk clock p.path journal).log dialect d).journal.lines? (directoryName q.path)
        (fileName clock.date) =
      some ((journal.lines? (directoryName q.path) (fileName clock.date)).getD [] ++
        [logLine clock dialect d]) := by
  rw [Session.lines?_log, directory_of_confusable h]
  exact if_pos ⟨rfl, rfl⟩

/-- A cleanup in a directory deletes the files of every confusable one that are past the retention
time. -/
theorem lines?_cleanup_of_confusable (h : p.Confusable q) {later : Instant} {journal : Journal}
    {day : Date} {retentionDays : Int}
    (hreaches : journal.reaches (directoryName q.path) = true) (hyear : 1000 ≤ day.year)
    (hretention : 0 ≤ retentionDays) (hpast : day.ordinal + retentionDays < later.date.ordinal) :
    ((Session.mk later p.path journal).step (.cleanup retentionDays)).journal.lines?
      (directoryName q.path) (fileName day) = none := by
  have hdirectory := directory_of_confusable h later journal
  rw [← hdirectory] at hreaches ⊢
  exact Session.lines?_cleanup_of_past hreaches hyear hretention hpast

/-- Directories are kept apart unless they are confusable. -/
theorem keepsApart_iff : p.KeepsApart q ↔ ¬ p.Confusable q := by
  constructor
  · intro hapart hconfusable
    -- One statement logged in the first directory is enough.
    have hkept := hapart ⟨⟨⟨1, by decide, by decide⟩, 0⟩, p.path, .empty⟩
      [.log none (.unknown "")] rfl (by decide) (fileName ⟨1, by decide, by decide⟩)
    have hlogged := lines?_log_of_confusable hconfusable ⟨⟨1, by decide, by decide⟩, 0⟩ .empty
      none (.unknown "")
    have hsome := hlogged.symm.trans hkept
    rw [Journal.lines?_empty] at hsome
    cases hsome
  · intro hne session steps hpath hsteps file
    have hdirectory : directoryName q.path ≠ session.directory := by
      rw [Session.directory, hpath]
      exact fun hsame => hne (directoryName_eq_iff.mp hsame.symm)
    exact Session.lines?_run_of_ne hdirectory hsteps file

/-- Two projects log to one directory exactly if their paths are confusable, which different paths
are only with a hyphen in one of them. Then, and only then, is there anything that is done in one
directory and changes the files of the other: a statement is added to the file that one was logged
to from the other, and a cleanup deletes that file. -/
theorem keepsApart_iff_not_confusable (p q : WorkingDirectory) :
    (directoryName p.path = directoryName q.path ↔ p.Confusable q) ∧
      (p.KeepsApart q ↔ ¬ p.Confusable q) ∧
      (p.Confusable q → p ≠ q → ∃ part ∈ p.parts ++ q.parts, '-' ∈ part.chars) ∧
      (p.Confusable q → ∀ (clock : Instant) (journal : Journal) (dialect dialect' : Option String)
        (d d' : Descriptor),
        let written := ((Session.mk clock q.path journal).log dialect d).journal
        let added := ((Session.mk clock p.path written).log dialect' d').journal
        let read (journal : Journal) :=
          journal.lines? (directoryName q.path) (fileName clock.date)
        (∃ earlier, read written = some (earlier ++ [logLine clock dialect d]) ∧
          read added =
            some (earlier ++ [logLine clock dialect d, logLine clock dialect' d'])) ∧
          ∀ (later : Instant) (retentionDays : Int), 1000 ≤ clock.date.year →
            0 ≤ retentionDays → clock.date.ordinal + retentionDays < later.date.ordinal →
            read ((Session.mk later p.path written).step (.cleanup retentionDays)).journal =
              none) := by
  refine ⟨directoryName_eq_iff, keepsApart_iff, ?_, ?_⟩
  · intro hconfusable hne
    by_contra hnone
    have hhyphen : ∀ part ∈ p.parts ++ q.parts, '-' ∉ part.chars :=
      fun part hpart hmem => hnone ⟨part, hpart, hmem⟩
    obtain ⟨hp, hq⟩ := List.forall_mem_append.mp hhyphen
    exact hne (eq_of_confusable hp hq hconfusable)
  · intro hconfusable clock journal dialect dialect' d d' written added read
    have hwritten : read written = _ :=
      (Session.lines?_log _ dialect d _ _).trans (if_pos ⟨rfl, rfl⟩)
    have hadded : read added = _ := lines?_log_of_confusable hconfusable clock written dialect' d'
    constructor
    · refine ⟨_, hwritten, ?_⟩
      have hlines : written.lines? (directoryName q.path) (fileName clock.date) = _ := hwritten
      rw [hadded, hlines, Option.getD_some, List.append_assoc]
      rfl
    · intro later retentionDays hyear hretention hpast
      exact lines?_cleanup_of_confusable hconfusable (Journal.reaches_append _ _ _ _) hyear
        hretention hpast

/-- The path `/work/etl`. -/
def nestedProject : WorkingDirectory :=
  ⟨[⟨"work".toList, by decide, by decide, by decide, by decide⟩,
    ⟨"etl".toList, by decide, by decide, by decide, by decide⟩]⟩

/-- The path `/work-etl`. -/
def hyphenatedProject : WorkingDirectory :=
  ⟨[⟨"work-etl".toList, by decide, by decide, by decide, by decide⟩]⟩

/-- A hyphen in the place of a slash leads to the same directory. -/
theorem not_keepsApart_hyphenatedProject :
    nestedProject.path = "/work/etl" ∧ hyphenatedProject.path = "/work-etl" ∧
      nestedProject ≠ hyphenatedProject ∧ nestedProject.Confusable hyphenatedProject ∧
      ¬ nestedProject.KeepsApart hyphenatedProject := by
  obtain ⟨hdirectory, hapart, -⟩ :=
    keepsApart_iff_not_confusable nestedProject hyphenatedProject
  have hconfusable := hdirectory.mp (by decide +kernel)
  refine ⟨by decide +kernel, by decide +kernel, ?_, hconfusable, ?_⟩
  · intro hsame
    have hparts := congrArg (fun w : WorkingDirectory => w.parts.length) hsame
    cases hparts
  · exact fun hkept => hapart.mp hkept hconfusable

end WorkingDirectory

end SqlFacts
