import Scenarist.App.Diagnostics
import Scenarist.CommandLine.Options
import Scenarist.Load

/-! # The extract command

Writes the excerpts of each file. A file that cannot be read is reported at its
place, and the others are not disturbed. -/

namespace Scenarist.App

open CommandLine

def banner (file : Text) : Text :=
  ("# ==> " : Text) ++ file ++ (" <==" : Text)

def excerptText (options : ExtractOptions) (excerpt : Excerpt) : Text :=
  if options.asFeatures then excerpt.featureSource else excerpt.text

/-! Banners tell several files apart. -/

def bannerLines (options : ExtractOptions) (file : Text) : List Write :=
  if options.files.length > 1 then [.outLine (banner file)] else []

def fileWrites [Pattern.Compiler] (setup : Setup) (files : Files) (options : ExtractOptions)
    (file : Text) : List Write :=
  match extractFile files options.markers file with
  | .error error => setup.diagnosis error
  | .ok extraction =>
    bannerLines options file ++
      extraction.excerpts.map fun excerpt => .outLine (excerptText options excerpt)

def isReadable (files : Files) (file : Text) : Bool :=
  (files.read file).isOk

/-- The script of the extract command. -/
def extractScript [Pattern.Compiler] (setup : Setup) (files : Files) (options : ExtractOptions) :
    Script :=
  if options.files.isEmpty then
    .failing .noInput
  else
    let writes := options.files.flatMap (fileWrites setup files options)
    if options.files.all (isReadable files) then
      { writes, ending := .ok .success }
    else
      { writes := writes ++ setup.usageLines, ending := .ok .failure }

end Scenarist.App
