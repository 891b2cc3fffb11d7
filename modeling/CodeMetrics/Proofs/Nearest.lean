import CodeMetrics.Config.Search
import CodeMetrics.Proofs.Ancestors

/-!
Which file configures a directory, for every state of the files: the directories upwards are looked at
in turn, the first readable file decides whatever it says, and the files further up have no say.
-/

namespace CodeMetrics

/-- What stands at a path. Bytes that are no text count as unreadable. -/
inductive FileState where
  | missing
  | unreadable
  | text (content : String)

def FileState.text? : FileState → Option String
  | .text content => some content
  | _ => none

/-- Nothing can be read here. -/
def FileState.Skipped (state : FileState) : Prop := state = .missing ∨ state = .unreadable

theorem FileState.text?_eq_none {state : FileState} : state.text? = none ↔ state.Skipped := by
  cases state <;> simp [text?, Skipped]

theorem FileState.text?_eq_some {state : FileState} {content : String} :
    state.text? = some content ↔ state = .text content := by
  cases state <;> simp [text?]

/-- What stands at each path. -/
abbrev FileSystem := String → FileState

namespace FileSystem

def read (files : FileSystem) (path : String) : Option String := (files path).text?

/-- The configuration file of a directory. -/
def config (files : FileSystem) (directory : String) : FileState :=
  files (Path.join directory ProjectConfig.fileName)

end FileSystem

namespace ProjectConfig

theorem nearest?_append {read : String → Option String} {nearer : List String} {path text : String}
    (skipped : ∀ near ∈ nearer, read near = none) (found : read path = some text)
    (farther : List String) :
    nearest? read (nearer ++ path :: farther) = some (path, text) := by
  induction nearer with
  | nil => rw [List.nil_append, nearest?, found]
  | cons near rest ih =>
      rw [List.cons_append, nearest?, skipped near List.mem_cons_self]
      exact ih fun other member => skipped other (List.mem_cons_of_mem near member)

theorem nearest?_eq_none {read : String → Option String} {paths : List String}
    (skipped : ∀ path ∈ paths, read path = none) : nearest? read paths = none := by
  induction paths with
  | nil => rfl
  | cons path rest ih =>
      rw [nearest?, skipped path List.mem_cons_self]
      exact ih fun other member => skipped other (List.mem_cons_of_mem path member)

section Search
variable {files : FileSystem} {start : String} {words : ParserWords}

/-- The directory whose file decides, where there is one. -/
theorem first_text (files : FileSystem) (directories : List String) :
    (∃ nearer directory farther content, directories = nearer ++ directory :: farther ∧
      (∀ near ∈ nearer, (files.config near).Skipped) ∧
      files.config directory = .text content) ∨
    ∀ directory ∈ directories, (files.config directory).Skipped := by
  cases found : directories.findSome? fun directory => (files.config directory).text? with
  | none =>
      exact .inr fun directory member =>
        FileState.text?_eq_none.mp (List.findSome?_eq_none_iff.mp found directory member)
  | some content =>
      obtain ⟨nearer, directory, farther, split, here, skipped⟩ :=
        List.findSome?_eq_some_iff.mp found
      exact .inl ⟨nearer, directory, farther, content, split,
        fun near member => FileState.text?_eq_none.mp (skipped near member),
        FileState.text?_eq_some.mp here⟩

theorem search_of_text {nearer farther : List String} {directory content : String}
    (ancestors : Path.ancestors searchDepth start = nearer ++ directory :: farther)
    (skipped : ∀ near ∈ nearer, (files.config near).Skipped)
    (found : files.config directory = .text content) :
    search files.read start words = ofFile words (Path.join directory fileName) content := by
  have nearest : nearest? files.read (candidates start) =
      some (Path.join directory fileName, content) := by
    rw [candidates, ancestors, List.map_append, List.map_cons]
    refine nearest?_append (fun path member => ?_) (FileState.text?_eq_some.mpr found) _
    obtain ⟨near, inside, rfl⟩ := List.mem_map.mp member
    exact FileState.text?_eq_none.mpr (skipped near inside)
  rw [search, nearest]

theorem search_of_none
    (skipped : ∀ directory ∈ Path.ancestors searchDepth start,
      (files.config directory).Skipped) :
    search files.read start words = .ok {} := by
  have nearest : nearest? files.read (candidates start) = none := by
    refine nearest?_eq_none fun path member => ?_
    obtain ⟨directory, inside, rfl⟩ := List.mem_map.mp member
    exact FileState.text?_eq_none.mpr (skipped directory inside)
  rw [search, nearest]

/-- The directories looked at go up from the start, ten at most. Either the file of one of them is
the first that can be read, and its configuration or the failure to parse it is the answer, or none
can be read and the answer is the default. Files that are not asked for have no influence on it.
Whatever the parser says of a text that it refuses is what the failure says. -/
theorem search_nearest (files : FileSystem) (start : String) (words : ParserWords) :
    Path.Ascends 10 start (Path.ancestors searchDepth start) ∧
      (∀ directory, Path.steps (Path.join directory fileName).toList =
        Path.steps directory.toList ++ [".complexity.toml".toList]) ∧
      ((∃ nearer directory farther content,
          Path.ancestors searchDepth start = nearer ++ directory :: farther ∧
          (∀ near ∈ nearer, (files.config near).Skipped) ∧
          files.config directory = .text content ∧
          (∀ config, parse content = .ok config →
            search files.read start words = .ok config) ∧
          (∀ error, parse content = .error error → search files.read start words =
            .error (.configuration (parseFailure (words content))
              (some (Path.join directory fileName)))) ∧
          ∀ others : FileSystem, (∀ asked ∈ nearer ++ [directory],
            others.config asked = files.config asked) →
            search others.read start words = search files.read start words) ∨
        (∀ directory ∈ Path.ancestors searchDepth start,
          (files.config directory).Skipped) ∧
        search files.read start words = .ok {} ∧
        ∀ others : FileSystem, (∀ asked ∈ Path.ancestors searchDepth start,
          others.config asked = files.config asked) →
          search others.read start words = search files.read start words) := by
  refine ⟨Path.ancestors_ascend 9 start, fun directory =>
    Path.steps_join directory (by decide) (by decide) (by decide), ?_⟩
  obtain ⟨nearer, directory, farther, content, ancestors, skipped, found⟩ | skipped :=
    first_text files (Path.ancestors searchDepth start)
  · left
    have answer : search files.read start words =
        ofFile words (Path.join directory fileName) content :=
      search_of_text ancestors skipped found
    refine ⟨nearer, directory, farther, content, ancestors, skipped, found, ?_, ?_, ?_⟩
    · intro config parsed
      rw [answer, ofFile, parsed]
      rfl
    · intro error failed
      rw [answer, ofFile, failed]
      rfl
    · intro others agree
      rw [answer]
      refine search_of_text ancestors (fun near member => ?_) ?_
      · rw [agree near (List.mem_append_left _ member)]
        exact skipped near member
      · rw [agree directory (List.mem_append_right _ List.mem_cons_self)]
        exact found
  · right
    refine ⟨skipped, search_of_none skipped, fun others agree => ?_⟩
    rw [search_of_none skipped]
    refine search_of_none fun directory member => ?_
    rw [agree directory member]
    exact skipped directory member

end Search
end ProjectConfig
end CodeMetrics
