import CsiOperator.Kube.Schema
/-!
Schemas of the Kubernetes API types the operator reads and writes: object metadata, the core
types of pods and their containers, workloads, RBAC, storage classes and leases. Members are
listed in the order the API types write them. Parts the operator never reads or writes deeply
are kept whole (`Schema.any`).
-/

namespace CsiOperator.Kube

/-- An owner reference. -/
def ownerReference : Schema := record "OwnerReference" [
  dfl "apiVersion" .string, opt "blockOwnerDeletion" .boolean, opt "controller" .boolean,
  dfl "kind" .string, dfl "name" .string, dfl "uid" .string]

/-- Object metadata. -/
def objectMeta : Schema := record "ObjectMeta" [
  opt "annotations" strMap, opt "creationTimestamp" .time,
  opt "deletionGracePeriodSeconds" .int64, opt "deletionTimestamp" .time,
  opt "finalizers" strList, opt "generateName" .string, opt "generation" .int64,
  opt "labels" strMap, opt "managedFields" (.list .any), opt "name" .string,
  opt "namespace" .string, opt "ownerReferences" (.list ownerReference),
  opt "resourceVersion" .string, opt "selfLink" .string, opt "uid" .string]

/-- A selector of one key of a secret or config map. -/
def keySelector (name : String) : Schema := record name [
  dfl "key" .string, opt "name" .string, opt "optional" .boolean]

/-- The source of an environment variable's value. -/
def envVarSource : Schema := record "EnvVarSource" [
  opt "configMapKeyRef" (keySelector "ConfigMapKeySelector"),
  opt "fieldRef" (record "ObjectFieldSelector" [opt "apiVersion" .string, dfl "fieldPath" .string]),
  opt "resourceFieldRef" (record "ResourceFieldSelector" [
    opt "containerName" .string, opt "divisor" .string, dfl "resource" .string]),
  opt "secretKeyRef" (keySelector "SecretKeySelector")]

/-- An environment variable. -/
def envVar : Schema := record "EnvVar" [
  dfl "name" .string, opt "value" .string, opt "valueFrom" envVarSource]

/-- A toleration. -/
def toleration : Schema := record "Toleration" [
  opt "effect" .string, opt "key" .string, opt "operator" .string,
  opt "tolerationSeconds" .int64, opt "value" .string]

/-- A topology selector term. -/
def topologySelectorTerm : Schema := record "TopologySelectorTerm" [
  opt "matchLabelExpressions" (.list (record "TopologySelectorLabelRequirement" [
    dfl "key" .string, dfl "values" strList]))]

/-- A volume mount. -/
def volumeMount : Schema := record "VolumeMount" [
  dfl "mountPath" .string, opt "mountPropagation" .string, dfl "name" .string,
  opt "readOnly" .boolean, opt "recursiveReadOnly" .string, opt "subPath" .string,
  opt "subPathExpr" .string]

/-- A key of a secret or config map projected to a file. -/
def keyToPath : Schema := record "KeyToPath" [
  dfl "key" .string, opt "mode" .int32, dfl "path" .string]

/-- A volume. -/
def volume : Schema := record "Volume" [
  opt "awsElasticBlockStore" .any, opt "azureDisk" .any, opt "azureFile" .any,
  opt "cephfs" .any, opt "cinder" .any,
  opt "configMap" (record "ConfigMapVolumeSource" [
    opt "defaultMode" .int32, opt "items" (.list keyToPath), opt "name" .string,
    opt "optional" .boolean]),
  opt "csi" .any, opt "downwardAPI" .any,
  opt "emptyDir" (record "EmptyDirVolumeSource" [opt "medium" .string, opt "sizeLimit" .string]),
  opt "ephemeral" .any, opt "fc" .any, opt "flexVolume" .any, opt "flocker" .any,
  opt "gcePersistentDisk" .any, opt "gitRepo" .any, opt "glusterfs" .any,
  opt "hostPath" (record "HostPathVolumeSource" [dfl "path" .string, opt "type" .string]),
  opt "image" .any, opt "iscsi" .any, dfl "name" .string, opt "nfs" .any,
  opt "persistentVolumeClaim" .any, opt "photonPersistentDisk" .any, opt "portworxVolume" .any,
  opt "projected" (record "ProjectedVolumeSource" [
    opt "defaultMode" .int32,
    opt "sources" (.list (record "VolumeProjection" [
      opt "clusterTrustBundle" .any, opt "configMap" .any, opt "downwardAPI" .any,
      opt "secret" (record "SecretProjection" [
        opt "items" (.list keyToPath), opt "name" .string, opt "optional" .boolean]),
      opt "serviceAccountToken" .any]))]),
  opt "quobyte" .any, opt "rbd" .any, opt "scaleIO" .any,
  opt "secret" (record "SecretVolumeSource" [
    opt "defaultMode" .int32, opt "items" (.list keyToPath), opt "optional" .boolean,
    opt "secretName" .string]),
  opt "storageos" .any, opt "vsphereVolume" .any]

/-- A container. -/
def container : Schema := record "Container" [
  opt "args" strList, opt "command" strList, opt "env" (.list envVar), opt "envFrom" (.list .any),
  opt "image" .string, opt "imagePullPolicy" .string, opt "lifecycle" .any,
  opt "livenessProbe" .any, dfl "name" .string, opt "ports" (.list .any),
  opt "readinessProbe" .any, opt "resizePolicy" (.list .any), opt "resources" .any,
  opt "restartPolicy" .string, opt "securityContext" .any, opt "startupProbe" .any,
  opt "stdin" .boolean, opt "stdinOnce" .boolean, opt "terminationMessagePath" .string,
  opt "terminationMessagePolicy" .string, opt "tty" .boolean, opt "volumeDevices" (.list .any),
  opt "volumeMounts" (.list volumeMount), opt "workingDir" .string]

/-- A pod spec. -/
def podSpec : Schema := record "PodSpec" [
  opt "activeDeadlineSeconds" .int64, opt "affinity" .any,
  opt "automountServiceAccountToken" .boolean, dfl "containers" (.list container),
  opt "dnsConfig" .any, opt "dnsPolicy" .string, opt "enableServiceLinks" .boolean,
  opt "ephemeralContainers" (.list .any), opt "hostAliases" (.list .any), opt "hostIPC" .boolean,
  opt "hostNetwork" .boolean, opt "hostPID" .boolean, opt "hostUsers" .boolean,
  opt "hostname" .string, opt "imagePullSecrets" (.list .any),
  opt "initContainers" (.list container), opt "nodeName" .string, opt "nodeSelector" strMap,
  opt "os" .any, opt "overhead" .any, opt "preemptionPolicy" .string, opt "priority" .int32,
  opt "priorityClassName" .string, opt "readinessGates" (.list .any),
  opt "resourceClaims" (.list .any), opt "restartPolicy" .string, opt "runtimeClassName" .string,
  opt "schedulerName" .string, opt "schedulingGates" (.list .any), opt "securityContext" .any,
  opt "serviceAccount" .string, opt "serviceAccountName" .string,
  opt "setHostnameAsFQDN" .boolean, opt "shareProcessNamespace" .boolean,
  opt "subdomain" .string, opt "terminationGracePeriodSeconds" .int64,
  opt "tolerations" (.list toleration), opt "topologySpreadConstraints" (.list .any),
  opt "volumes" (.list volume)]

/-- A pod template. -/
def podTemplateSpec : Schema := record "PodTemplateSpec" [
  opt "metadata" objectMeta, opt "spec" podSpec]

/-- The state of a container. -/
def containerState : Schema := record "ContainerState" [
  opt "running" .any, opt "terminated" .any,
  opt "waiting" (record "ContainerStateWaiting" [opt "message" .string, opt "reason" .string])]

/-- The status of a container. -/
def containerStatus : Schema := record "ContainerStatus" [
  opt "allocatedResources" .any, opt "allocatedResourcesStatus" (.list .any),
  opt "containerID" .string, dfl "image" .string, dfl "imageID" .string,
  opt "lastState" containerState, dfl "name" .string, dfl "ready" .boolean,
  opt "resources" .any, dfl "restartCount" .int32, opt "started" .boolean,
  opt "state" containerState, opt "user" .any, opt "volumeMounts" (.list .any)]

/-- The status of a pod. -/
def podStatus : Schema := record "PodStatus" [
  opt "conditions" (.list .any), opt "containerStatuses" (.list containerStatus),
  opt "ephemeralContainerStatuses" (.list containerStatus), opt "hostIP" .string,
  opt "hostIPs" (.list .any), opt "initContainerStatuses" (.list containerStatus),
  opt "message" .string, opt "nominatedNodeName" .string, opt "phase" .string,
  opt "podIP" .string, opt "podIPs" (.list .any), opt "qosClass" .string, opt "reason" .string,
  opt "resize" .string, opt "resourceClaimStatuses" (.list .any), opt "startTime" .time]

/-- A label selector. -/
def labelSelector : Schema := record "LabelSelector" [
  opt "matchExpressions" (.list .any), opt "matchLabels" strMap]

/-- A policy rule. -/
def policyRule : Schema := record "PolicyRule" [
  opt "apiGroups" strList, opt "nonResourceURLs" strList, opt "resourceNames" strList,
  opt "resources" strList, dfl "verbs" strList]

/-- A role reference. -/
def roleRef : Schema := record "RoleRef" [
  dfl "apiGroup" .string, dfl "kind" .string, dfl "name" .string]

/-- A binding subject. -/
def subject : Schema := record "Subject" [
  opt "apiGroup" .string, dfl "kind" .string, dfl "name" .string, opt "namespace" .string]

/-- A service port. -/
def servicePort : Schema := record "ServicePort" [
  opt "appProtocol" .string, opt "name" .string, opt "nodePort" .int32, dfl "port" .int32,
  opt "protocol" .string, opt "targetPort" .intOrString]

/-- A service spec. -/
def serviceSpec : Schema := record "ServiceSpec" [
  opt "allocateLoadBalancerNodePorts" .boolean, opt "clusterIP" .string,
  opt "clusterIPs" strList, opt "externalIPs" strList, opt "externalName" .string,
  opt "externalTrafficPolicy" .string, opt "healthCheckNodePort" .int32,
  opt "internalTrafficPolicy" .string, opt "ipFamilies" strList, opt "ipFamilyPolicy" .string,
  opt "loadBalancerClass" .string, opt "loadBalancerIP" .string,
  opt "loadBalancerSourceRanges" strList, opt "ports" (.list servicePort),
  opt "publishNotReadyAddresses" .boolean, opt "selector" strMap,
  opt "sessionAffinity" .string, opt "sessionAffinityConfig" .any,
  opt "trafficDistribution" .string, opt "type" .string]

/-- A stateful set spec. -/
def statefulSetSpec : Schema := record "StatefulSetSpec" [
  opt "minReadySeconds" .int32, opt "ordinals" .any,
  opt "persistentVolumeClaimRetentionPolicy" .any, opt "podManagementPolicy" .string,
  opt "replicas" .int32, opt "revisionHistoryLimit" .int32, dfl "selector" labelSelector,
  opt "serviceName" .string, dfl "template" podTemplateSpec, opt "updateStrategy" .any,
  opt "volumeClaimTemplates" (.list .any)]

/-- A stateful set status. -/
def statefulSetStatus : Schema := record "StatefulSetStatus" [
  opt "availableReplicas" .int32, opt "collisionCount" .int32, opt "conditions" (.list .any),
  opt "currentReplicas" .int32, opt "currentRevision" .string,
  opt "observedGeneration" .int64, opt "readyReplicas" .int32, dfl "replicas" .int32,
  opt "updateRevision" .string, opt "updatedReplicas" .int32]

/-- A deployment spec. -/
def deploymentSpec : Schema := record "DeploymentSpec" [
  opt "minReadySeconds" .int32, opt "paused" .boolean, opt "progressDeadlineSeconds" .int32,
  opt "replicas" .int32, opt "revisionHistoryLimit" .int32, dfl "selector" labelSelector,
  opt "strategy" .any, dfl "template" podTemplateSpec]

/-- A deployment status. -/
def deploymentStatus : Schema := record "DeploymentStatus" [
  opt "availableReplicas" .int32, opt "collisionCount" .int32, opt "conditions" (.list .any),
  opt "observedGeneration" .int64, opt "readyReplicas" .int32, opt "replicas" .int32,
  opt "unavailableReplicas" .int32, opt "updatedReplicas" .int32]

/-- A daemon set spec. -/
def daemonSetSpec : Schema := record "DaemonSetSpec" [
  opt "minReadySeconds" .int32, opt "revisionHistoryLimit" .int32, dfl "selector" labelSelector,
  dfl "template" podTemplateSpec, opt "updateStrategy" .any]

/-- A daemon set status. -/
def daemonSetStatus : Schema := record "DaemonSetStatus" [
  opt "collisionCount" .int32, opt "conditions" (.list .any),
  dfl "currentNumberScheduled" .int32, dfl "desiredNumberScheduled" .int32,
  opt "numberAvailable" .int32, dfl "numberMisscheduled" .int32, dfl "numberReady" .int32,
  opt "numberUnavailable" .int32, opt "observedGeneration" .int64,
  opt "updatedNumberScheduled" .int32]

/-- A CSI driver spec. -/
def csiDriverSpec : Schema := record "CSIDriverSpec" [
  opt "attachRequired" .boolean, opt "fsGroupPolicy" .string, opt "podInfoOnMount" .boolean,
  opt "requiresRepublish" .boolean, opt "seLinuxMount" .boolean, opt "storageCapacity" .boolean,
  opt "tokenRequests" (.list .any), opt "volumeLifecycleModes" strList]

/-- A lease spec. -/
def leaseSpec : Schema := record "LeaseSpec" [
  opt "acquireTime" .microTime, opt "holderIdentity" .string,
  opt "leaseDurationSeconds" .int32, opt "leaseTransitions" .int32,
  opt "preferredHolder" .string, opt "renewTime" .microTime, opt "strategy" .string]

end CsiOperator.Kube
