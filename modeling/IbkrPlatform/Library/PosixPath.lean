import Mathlib.Data.String.Basic

/-! Paths as `pathlib` keeps them: their root, and their parts without empty ones and dots. -/

namespace IbkrPlatform.Library

structure PosixPath where
  root : String
  parts : List String
deriving DecidableEq

namespace PosixPath

def rootOf : List Char → String
  | '/' :: '/' :: '/' :: _ => "/"
  | '/' :: '/' :: _ => "//"
  | '/' :: _ => "/"
  | _ => ""

def parse (text : String) : PosixPath :=
  ⟨rootOf text.toList, ((text.toList.splitOn '/').filter fun part => part ≠ [] ∧ part ≠ ['.']).map String.ofList⟩

def join (path : PosixPath) (name : String) : PosixPath :=
  if (parse name).root = "" then ⟨path.root, path.parts ++ (parse name).parts⟩ else parse name

structure IsEntry (name : String) : Prop where
  slash : '/' ∉ name.toList
  nonempty : name.toList ≠ []
  dot : name.toList ≠ ['.']

variable {path : PosixPath} {name name' : String}

lemma IsEntry.parse (h : IsEntry name) : parse name = ⟨"", [name]⟩ := by
  have hroot : rootOf name.toList = "" := by
    unfold rootOf
    split
    · rename_i htext
      exact absurd (htext ▸ List.mem_cons_self) h.slash
    · rename_i htext
      exact absurd (htext ▸ List.mem_cons_self) h.slash
    · rename_i htext
      exact absurd (htext ▸ List.mem_cons_self) h.slash
    · rfl
  have hparts : name.toList.splitOn '/' = [name.toList] := List.splitOn_eq_singleton h.slash
  simp [PosixPath.parse, hroot, hparts, h.nonempty, h.dot]

lemma IsEntry.join (h : IsEntry name) : path.join name = ⟨path.root, path.parts ++ [name]⟩ := by
  simp [PosixPath.join, h.parse]

lemma join_inj (h : IsEntry name) (h' : IsEntry name') : path.join name = path.join name' ↔ name = name' := by
  rw [h.join, h'.join, PosixPath.mk.injEq, and_iff_right rfl, List.append_cancel_left_eq, List.singleton_inj]

end PosixPath

end IbkrPlatform.Library
