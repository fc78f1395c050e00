/-
**Sanitizing is exact.**

What a client is to see of the assembler's words can be said without the machine: the literal bytes
as they are decoded, the placeholder for every mention of the source, and the placeholder with the
ending of results for every mention of the result.  As long as the name of the staging area is
nowhere else, this is what the two replacements arrive at, and no other name would make a
difference.

Main definitions:

* `AssemblyGate.Fragment` — literal bytes, or a mention of a path;
* `AssemblyGate.Fragment.said` — the bytes of fragments in a row, with the two paths in full;
* `AssemblyGate.Fragment.shown` — what a client is to see of them.

Main results:

* `AssemblyGate.StagingArea.result_join` — the path of the result, in full;
* `AssemblyGate.StagingArea.sanitize_exact` — **sanitizing is exact**.
-/
import AssemblyGate.Assembler.Run
import AssemblyGate.Proofs.Assembler.Mentions

set_option autoImplicit false

namespace AssemblyGate

/-! ### Fragments -/

/-- A part of what the assembler says: literal bytes, or a mention of a path. -/
inductive Fragment
  | literal (bytes : Bytes)
  | mention (m : Mention)
deriving DecidableEq

/-- The name of the file that is mentioned. -/
def Mention.fileName : Mention → String
  | source => "input.S"
  | result => "input.o"

namespace Fragment

/-- The bytes of fragments, when the area has a given name in a given parent. -/
def said (parent name : String) (fragments : List Fragment) : Bytes :=
  fragments.flatMap fun
    | literal bytes => bytes
    | mention m => Utf8.encode (Path.join (Path.join parent name) m.fileName).toList

/-- What a client is to see of fragments that stand behind literal bytes. -/
def shownAfter (placeholder : String) : Bytes → List Fragment → List Char
  | run, [] => Utf8.decodeLossy run
  | run, literal bytes :: rest => shownAfter placeholder (run ++ bytes) rest
  | run, mention m :: rest =>
      Utf8.decodeLossy run ++ (m.placeholder placeholder ++ shownAfter placeholder [] rest)

/-- What a client is to see of fragments.  Literal bytes in a row are decoded as one. -/
def shown (placeholder : String) (fragments : List Fragment) : List Char :=
  shownAfter placeholder [] fragments

/-- Fragments behind literal bytes, with literal bytes in a row put together. -/
def speechAfter : Bytes → List Fragment → Speech
  | run, [] => ⟨run, []⟩
  | run, literal bytes :: rest => speechAfter (run ++ bytes) rest
  | run, mention m :: rest =>
      let after := speechAfter [] rest
      ⟨run, (m, after.opening) :: after.rest⟩

theorem shown_speechAfter (placeholder : String) (run : Bytes) (fragments : List Fragment) :
    (speechAfter run fragments).shown placeholder = shownAfter placeholder run fragments := by
  induction fragments generalizing run with
  | nil => simp [speechAfter, shownAfter, Speech.shown, Speech.words, weave]
  | cons fragment rest ih =>
      cases fragment with
      | literal bytes => exact ih (run ++ bytes)
      | mention m =>
          rw [shownAfter, ← ih]
          exact weave_cons _ _ _ _ _

theorem bytes_speechAfter {parent name : String} {path : Mention → List Char}
    (hpath : ∀ m, path m = (Path.join (Path.join parent name) m.fileName).toList) (run : Bytes)
    (fragments : List Fragment) :
    (speechAfter run fragments).bytes path = run ++ said parent name fragments := by
  induction fragments generalizing run with
  | nil => rfl
  | cons fragment rest ih =>
      cases fragment with
      | literal bytes =>
          rw [speechAfter, ih, List.append_assoc]
          rfl
      | mention m =>
          have hrest := ih []
          rw [List.nil_append] at hrest
          simp only [said, List.flatMap_cons] at hrest ⊢
          rw [← hpath m, ← hrest]
          simp [speechAfter, Speech.bytes]

end Fragment

/-! ### The paths in full -/

namespace StagingArea

variable {parent name : String}

theorem join_toList (hparent : Path.isAbsolute parent = true) (hname : StagingName name)
    {file : String} (hfile : file.toList.head? ≠ some '/') :
    (Path.join (Path.join parent name) file).toList
      = Path.stem parent ++ name.toList ++ '/' :: file.toList := by
  obtain ⟨hne, hstem⟩ := stem_join hparent hname
  rw [Path.join_toList hfile hne, hstem, List.append_assoc, List.singleton_append]

/-- The path of the result, in full. -/
theorem result_join (hparent : Path.isAbsolute parent = true) (hname : StagingName name) :
    result ⟨Path.join parent name⟩ = Path.join (Path.join parent name) "input.o" := by
  have hresult := path_eq_markedPath hparent hname .result
  have hjoin := join_toList hparent hname (show "input.o".toList.head? ≠ some '/' by decide)
  exact String.toList_inj.1 (hresult.trans hjoin.symm)

theorem path_eq_fileName (hparent : Path.isAbsolute parent = true) (hname : StagingName name)
    (m : Mention) :
    m.path ⟨Path.join parent name⟩
      = (Path.join (Path.join parent name) m.fileName).toList := by
  cases m with
  | source => rfl
  | result => exact congrArg String.toList (result_join hparent hname)

/-! ### What a client sees -/

theorem sanitize_said {placeholder : String} {fragments : List Fragment}
    (hparent : Path.isAbsolute parent = true) (hname : StagingName name)
    (hapart : ¬name.toList <:+: parent.toList)
    (hunsaid : ¬name.toList <:+: Fragment.shown placeholder fragments) :
    sanitize ⟨Path.join parent name⟩ placeholder
        (Utf8.decodeLossy (Fragment.said parent name fragments))
      = Fragment.shown placeholder fragments := by
  have hbytes := Fragment.bytes_speechAfter (path_eq_fileName hparent hname) [] fragments
  have hshown := Fragment.shown_speechAfter placeholder [] fragments
  rw [List.nil_append] at hbytes
  rw [Fragment.shown, ← hshown] at hunsaid ⊢
  rw [← hbytes]
  exact sanitize_bytes (marks_of_stagingName hparent hname hapart)
    (path_eq_markedPath hparent hname) hunsaid

/-- **Sanitizing is exact**: a client sees the literal bytes as they are decoded and a placeholder
for every mention of a path, when the name of the area occurs neither in front of the name nor in
what the client is to see.  Any other such name leads to the same message. -/
theorem sanitize_exact {placeholder : String} {fragments : List Fragment}
    (hparent : Path.isAbsolute parent = true) (hname : StagingName name)
    (hapart : ¬name.toList <:+: parent.toList)
    (hunsaid : ¬name.toList <:+: Fragment.shown placeholder fragments) :
    sanitize ⟨Path.join parent name⟩ placeholder
        (Utf8.decodeLossy (Fragment.said parent name fragments))
      = Fragment.shown placeholder fragments ∧
    ∀ (a : AssemblerSettings) (status : ExitStatus) (other : String),
      a.placeholder = placeholder → StagingName other → ¬other.toList <:+: parent.toList →
        ¬other.toList <:+: Fragment.shown placeholder fragments →
          Assembler.conclude a ⟨Path.join parent other⟩
              (.ended status (Fragment.said parent other fragments))
            = Assembler.conclude a ⟨Path.join parent name⟩
              (.ended status (Fragment.said parent name fragments)) := by
  have hclean := sanitize_said hparent hname hapart hunsaid
  refine ⟨hclean, fun a status other ha hother hfree hquiet => ?_⟩
  have hsame := sanitize_said hparent hother hfree hquiet
  rw [Assembler.conclude, Assembler.conclude, ha, hclean, hsame]

/-- Broken characters around the paths, one of them cut in two that heal. -/
def brokenWords : List Fragment :=
  [.literal [0xff, 0xe2], .literal [0x82, 0xac, 0xe2, 0x82], .mention .source, .literal [0x82],
    .mention .result, .mention .source, .literal (Utf8.encode "/input.S".toList)]

/-- Neither a parent that holds the name of a source nor broken characters are in the way. -/
theorem sanitize_exact_broken :
    sanitize ⟨Path.join "/tmp/input.S/" "asm-Ab3Xy9"⟩ "main.tar.gz"
        (Utf8.decodeLossy (Fragment.said "/tmp/input.S/" "asm-Ab3Xy9" brokenWords))
      = "�€�main.tar.gz�main.tar.omain.tar.gz/input.S".toList := by
  have hname : StagingName "asm-Ab3Xy9" :=
    ⟨['A', 'b', '3', 'X', 'y', '9'], by decide, by decide, List.all_eq_true.1 (by decide)⟩
  have hshown : Fragment.shown "main.tar.gz" brokenWords
      = "�€�main.tar.gz�main.tar.omain.tar.gz/input.S".toList := by decide +kernel
  have hunsaid : ¬"asm-Ab3Xy9".toList <:+: Fragment.shown "main.tar.gz" brokenWords := by
    rw [hshown]
    decide +kernel
  have hclean := (@sanitize_exact "/tmp/input.S/" "asm-Ab3Xy9" "main.tar.gz" brokenWords
    (by decide) hname (by decide) hunsaid).1
  exact hclean.trans hshown

end StagingArea

end AssemblyGate
