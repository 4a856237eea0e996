import MultiAgents.Services.GitService

/-!
# Requests of the service operations

Which requests each operation of a service can issue, for any set of requests
that has them.
-/

namespace MultiAgents

open Effects

variable {allowed : Request → Prop}

namespace OpenCodeClient

theorem sendPrompt_uses {sessionId : String} {prompt : Prompt}
    (permitted : allowed (.sendPrompt sessionId prompt)) :
    Uses allowed (sendPrompt sessionId prompt) :=
  .attempt (.call permitted)

theorem waitForIdle_uses {sessionId : String} {timeout : Option Nat}
    (permitted : allowed (.waitForIdle sessionId timeout)) :
    Uses allowed (waitForIdle sessionId timeout) :=
  .attempt (.call permitted)

end OpenCodeClient

namespace SessionRepository

theorem create_uses {sessionId taskId directory phaseName : String} {manual : Bool}
    (permitted : allowed (.writeSession (.create sessionId taskId directory phaseName manual))) :
    Uses allowed (create sessionId taskId directory phaseName manual) :=
  .attempt (.call permitted)

theorem updateStatus_uses {sessionId status : String}
    (permitted : allowed (.writeSession (.updateStatus sessionId status))) :
    Uses allowed (updateStatus sessionId status) :=
  .attempt (.call permitted)

end SessionRepository

namespace GitService

theorem git_uses {command : GitCommand} {cwd : String} (permitted : allowed (.git command cwd)) :
    Uses allowed (git command cwd) := by
  refine .bind (.call permitted) fun answer => ?_
  cases answer with
  | ok stdout => exact .pure _
  | error message => exact .throw _

theorem hasChanges_uses {directory : String} (status : allowed (.git .status directory)) :
    Uses allowed (hasChanges directory) :=
  .bind (git_uses status) fun _ => .pure _

theorem getChangedFiles_uses {directory : String} (status : allowed (.git .status directory)) :
    Uses allowed (getChangedFiles directory) :=
  .bind (git_uses status) fun _ => .pure _

theorem discardChanges_uses {directory : String}
    (reset : allowed (.git .resetHard directory)) (clean : allowed (.git .cleanFd directory)) :
    Uses allowed (discardChanges directory) :=
  .tryCatch (.bind (git_uses reset) fun _ => .bind (git_uses clean) fun _ => .pure _)
    fun _ => .pure _

theorem getFullDiff_uses {directory : String} {maxLines : Nat}
    (diff : allowed (.git .diffHead directory)) :
    Uses allowed (getFullDiff directory maxLines) :=
  .tryCatch (.bind (git_uses diff) fun _ => .pure _) fun _ => .pure _

def RecordingCommand : GitCommand → Prop
  | .status | .addAll | .commit _ | .revParseHead | .abbrevRefHead | .push _ => True
  | _ => False

theorem commit_uses {directory message : String} {story : Option (String × String)}
    (permitted : ∀ command, RecordingCommand command → allowed (.git command directory)) :
    Uses allowed (commit directory message story) :=
  .bind (git_uses (permitted .addAll trivial)) fun _ =>
    .bind (git_uses (permitted (.commit _) trivial)) fun _ =>
      .bind (git_uses (permitted .revParseHead trivial)) fun _ => .pure _

theorem push_uses {directory branch : String}
    (permitted : ∀ command, RecordingCommand command → allowed (.git command directory)) :
    Uses allowed (push directory branch) :=
  .bind (.ite (git_uses (permitted .abbrevRefHead trivial)) (.pure _)) fun _ =>
    .bind (git_uses (permitted (.push _) trivial)) fun _ => .pure _

theorem commitAndPush_uses {directory message : String} {story : Option (String × String)}
    (permitted : ∀ command, RecordingCommand command → allowed (.git command directory)) :
    Uses allowed (commitAndPush directory message story) := by
  refine .bind (hasChanges_uses (permitted .status trivial)) fun changed => .ite ?_ (.pure _)
  exact .bind (commit_uses permitted) fun _ => .bind (push_uses permitted) fun _ => .pure _

end GitService

end MultiAgents
