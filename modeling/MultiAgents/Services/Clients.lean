import MultiAgents.System.Environment

/-!
# Clients of the outside services

The calls the phases make to the OpenCode server, the event bridge, the
database, the approval service and the frontend, one operation a request.
-/

namespace MultiAgents

namespace OpenCodeClient

def createSession (title : SessionTitle) (directory : String) : Program String :=
  .attempt (Request.issue (.createSession title directory))

def sendPrompt (sessionId : String) (prompt : Prompt) : Program Unit :=
  .attempt (Request.issue (.sendPrompt sessionId prompt))

def waitForIdle (sessionId : String) (timeout : Option Nat) :
    Program (List OpenCodeEvent) :=
  .attempt (Request.issue (.waitForIdle sessionId timeout))

def abortSession (sessionId : String) : Program Unit :=
  .attempt (Request.issue (.abortSession sessionId))

end OpenCodeClient

namespace OpenCodeEventBridge

def registerSession (taskId sessionId directory : String) : Program Unit :=
  Request.issue (.registerSession taskId sessionId directory)

def unregisterSession (sessionId : String) : Program Unit :=
  Request.issue (.unregisterSession sessionId)

end OpenCodeEventBridge

namespace SessionRepository

def create (sessionId taskId directory phaseName : String) (manual : Bool) : Program Unit :=
  .attempt (Request.issue (.writeSession (.create sessionId taskId directory phaseName manual)))

def updateStatus (sessionId status : String) : Program Unit :=
  .attempt (Request.issue (.writeSession (.updateStatus sessionId status)))

end SessionRepository

namespace TaskRepository

def findById (taskId : String) : Program (Option TaskRow) :=
  .attempt (Request.issue (.findTask taskId))

def write (taskId : String) (change : TaskWrite) : Program Unit :=
  .attempt (Request.issue (.writeTask taskId change))

end TaskRepository

namespace ApprovalService

def requestApproval (taskId : String) (phase : ApprovalPhase) (output : ApprovalOutput) :
    Program ApprovalResponse :=
  .attempt (Request.issue (.requestApproval taskId phase output))

end ApprovalService

namespace SocketService

def toTask (taskId : String) (notice : Notice) : Program Unit :=
  Request.issue (.toTask taskId notice)

end SocketService

namespace Console

def log (line : LogLine) : Program Unit :=
  Request.issue (.log line)

end Console

end MultiAgents
