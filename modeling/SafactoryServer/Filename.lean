import SafactoryServer.Published

/-! The filenames of the Gateway config that the settings accept, and those under which `bind` can
publish it. -/

namespace SafactoryServer

open Effect FileTree FileTree.Tree FileTask

/-- `Path(text).parts` of a relative path. -/
def pathParts (text : String) : Path :=
  ((text.toList.splitOn '/').map String.ofList).filter fun part => part ≠ "" && part ≠ "."

section

variable {m : SharedFileManager} {disk : Disk} {jobId rangeId text : String} {s s' : Files}
  {b : JobFileBinding} {α : Type}

/-- What a rendering writes last: the Gateway config and `.binding.json`. -/
def Tree.finished (g : Files) (staging F : Path) (gateway : Bytes) (document : Json) : Files :=
  (g.put (staging ++ "gateway" :: F) (.file (.bytes gateway))).put (staging ++ [".binding.json"])
    (.file (.json document))

section

variable {g : Files} {staging finalInput F p : Path} {gateway : Bytes} {document : Json}

end

end

end SafactoryServer
