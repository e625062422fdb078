import Steading.Manifest.Shape.Volume

/-!
# Shapes of containers
-/

namespace Steading.Shape

open Place

/-- A key of a collection whose value is taken. -/
def keySelector : Shape :=
  .record [.required "key" .text, .optional "name" .text, .optional "optional" .flag]

def envVar : Shape :=
  .record [.required "name" .text, .optional "value" .text,
    .optional "valueFrom" (.record [
      .optional "configMapKeyRef" keySelector,
      .optional "fieldRef" fieldSelector,
      .optional "resourceFieldRef" resourceFieldSelector,
      .optional "secretKeyRef" keySelector])]

/-- A collection of which every key becomes a variable. -/
def envSource : Shape :=
  let collection := .record [.optional "name" .text, .optional "optional" .flag]
  .record [.optional "configMapRef" collection, .optional "prefix" .text,
    .optional "secretRef" collection]

def commandAction : Place :=
  .optional "exec" (.record [.optional "command" texts])

def webAction : Place :=
  .optional "httpGet" (.record (optionals .text ["host", "path", "scheme"] ++
    [.optional "httpHeaders" (.list (.record (requireds .text ["name", "value"]))),
      .required "port" .intOrText]))

def connectAction : Place :=
  .optional "tcpSocket" (.record [.optional "host" .text, .required "port" .intOrText])

/-- What is done when a container starts or stops. -/
def handler : Shape :=
  .record [commandAction, webAction, connectAction,
    .optional "sleep" (.record [.required "seconds" .int64])]

/-- A question that a container is asked again and again. -/
def probe : Shape :=
  .record (optionals .int32 ["failureThreshold", "initialDelaySeconds", "periodSeconds",
      "successThreshold", "timeoutSeconds"] ++
    [.optional "terminationGracePeriodSeconds" .int64,
      .optional "grpc" (.record [.required "port" .int32, .optional "service" .text]),
      commandAction, webAction, connectAction])

def containerPort : Shape :=
  .record (optionals .text ["hostIP", "name", "protocol"] ++
    [.required "containerPort" .int32, .optional "hostPort" .int32])

def resources : Shape :=
  .record (optionals amounts ["limits", "requests"] ++
    [.optional "claims" (.list (.record [.required "name" .text]))])

def securityLabels : Shape :=
  .record (optionals .text ["level", "role", "type", "user"])

def callProfile : Shape :=
  .record [.required "type" .text, .optional "localhostProfile" .text]

def windowsOptions : Shape :=
  .record (optionals .text ["gmsaCredentialSpec", "gmsaCredentialSpecName", "runAsUserName"] ++
    [.optional "hostProcess" .flag])

/-- On whose behalf something runs. -/
def identity : List Place :=
  optionals .int64 ["runAsGroup", "runAsUser"] ++
    [.optional "runAsNonRoot" .flag, .optional "seLinuxOptions" securityLabels,
      .optional "seccompProfile" callProfile, .optional "windowsOptions" windowsOptions]

def securityContext : Shape :=
  .record (identity ++
    optionals .flag ["allowPrivilegeEscalation", "privileged", "readOnlyRootFilesystem"] ++
    [.optional "capabilities" (.record (optionals texts ["add", "drop"])),
      .optional "procMount" .text])

def volumeMount : Shape :=
  .record (requireds .text ["mountPath", "name"] ++
    optionals .text ["mountPropagation", "subPath", "subPathExpr"] ++
    [.optional "readOnly" .flag])

/-- A container; some kinds of it have texts that others lack. -/
def containerWith (more : List String) : Shape :=
  .record ([.required "name" .text] ++
    optionals .text (["image", "imagePullPolicy", "restartPolicy", "terminationMessagePath",
      "terminationMessagePolicy", "workingDir"] ++ more) ++
    optionals texts ["args", "command"] ++
    optionals .flag ["stdin", "stdinOnce", "tty"] ++
    optionals probe ["livenessProbe", "readinessProbe", "startupProbe"] ++
    [.optional "env" (.list envVar),
      .optional "envFrom" (.list envSource),
      .optional "lifecycle" (.record (optionals handler ["postStart", "preStop"])),
      .optional "ports" (.list containerPort),
      .optional "resizePolicy"
        (.list (.record (requireds .text ["resourceName", "restartPolicy"]))),
      .optional "resources" resources,
      .optional "securityContext" securityContext,
      .optional "volumeDevices" (.list (.record (requireds .text ["devicePath", "name"]))),
      .optional "volumeMounts" (.list volumeMount)])

def container : Shape :=
  containerWith []

/-- A container that is put into a pod that runs already. -/
def ephemeralContainer : Shape :=
  containerWith ["targetContainerName"]

end Steading.Shape
