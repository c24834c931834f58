/-
The registered subtags of language tags: languages, scripts, regions and variants, with the codes
that stand for others.
-/
import Trellis.Text.Search

namespace Trellis.Locale

/-- Pairs of codes, each written with a hyphen in between. -/
def pairs (s : String) : List (String × String) :=
  (Text.words s).filterMap fun w =>
    match Text.splitOnChar w '-' with
    | [a, b] => some (a, b)
    | _ => none

/-- What stands for a code in a table. -/
def meaning? (table : List (String × String)) (code : String) : Option String :=
  (table.find? (·.1 == code)).map (·.2)

/-- Languages with two letters. -/
def languages2 : List String := Text.words
  "aa ab ae af ak am an ar as av ay az ba be bg bh bi bm bn bo br bs ca ce ch co cr cs cu cv cy da
   de dv dz ee el en eo es et eu fa ff fi fj fo fr fy ga gd gl gn gu gv ha he hi ho hr ht hu hy hz
   ia id ie ig ii ik in io is it iu iw ja ji jv jw ka kg ki kj kk kl km kn ko kr ks ku kv kw ky la
   lb lg li ln lo lt lu lv mg mh mi mk ml mn mo mr ms mt my na nb nd ne ng nl nn no nr nv ny oc oj
   om or os pa pi pl ps pt qu rm rn ro ru rw sa sc sd se sg sh si sk sl sm sn so sq sr ss st su sv
   sw ta te tg th ti tk tl tn to tr ts tt tw ty ug uk ur uz ve vi vo wa wo xh yi yo za zh zu"

/-- Codes of three letters for languages that have one of two. -/
def overlong : List (String × String) := pairs
  "aar-aa abk-ab afr-af aka-ak alb-sq amh-am ara-ar arg-an arm-hy asm-as ava-av ave-ae aym-ay aze-az
   bak-ba bam-bm baq-eu bel-be ben-bn bih-bh bis-bi bod-bo bos-bs bre-br bul-bg bur-my cat-ca ces-cs
   cha-ch che-ce chi-zh chu-cu chv-cv cor-kw cos-co cre-cr cym-cy cze-cs dan-da deu-de div-dv dut-nl
   dzo-dz ell-el eng-en epo-eo est-et eus-eu ewe-ee fao-fo fas-fa fij-fj fin-fi fra-fr fre-fr fry-fy
   ful-ff geo-ka ger-de gla-gd gle-ga glg-gl glv-gv gre-el grn-gn guj-gu hat-ht hau-ha hbs-sh heb-he
   her-hz hin-hi hmo-ho hrv-hr hun-hu hye-hy ibo-ig ice-is ido-io iii-ii iku-iu ile-ie ina-ia ind-id
   ipk-ik isl-is ita-it jav-jv jpn-ja kal-kl kan-kn kas-ks kat-ka kau-kr kaz-kk khm-km kik-ki kin-rw
   kir-ky kom-kv kon-kg kor-ko kua-kj kur-ku lao-lo lat-la lav-lv lim-li lin-ln lit-lt ltz-lb lub-lu
   lug-lg mac-mk mah-mh mal-ml mao-mi mar-mr may-ms mkd-mk mlg-mg mlt-mt mol-mo mon-mn mri-mi msa-ms
   mya-my nau-na nav-nv nbl-nr nde-nd ndo-ng nep-ne nld-nl nno-nn nob-nb nor-no nya-ny oci-oc oji-oj
   ori-or orm-om oss-os pan-pa per-fa pli-pi pol-pl por-pt pus-ps que-qu roh-rm ron-ro rum-ro run-rn
   rus-ru sag-sg san-sa sin-si slk-sk slo-sk slv-sl sme-se smo-sm sna-sn snd-sd som-so sot-st spa-es
   sqi-sq srd-sc srp-sr ssw-ss sun-su swa-sw swe-sv tah-ty tam-ta tat-tt tel-te tgk-tg tgl-tl tha-th
   tib-bo tir-ti ton-to tsn-tn tso-ts tuk-tk tur-tr twi-tw uig-ug ukr-uk urd-ur uzb-uz ven-ve vie-vi
   vol-vo wel-cy wln-wa wol-wo xho-xh yid-yi yor-yo zha-za zho-zh zul-zu"

/-- Languages with three letters: each word has two letters to begin with, then every third letter
that makes a code. -/
def languages3 : List String := Text.words
  "aaabcdefghiklmnopqstuvwxz ababcdefghijlmnopqrstuvwxyz acabdefhiklmnpqrstuvwxyz
   adabdefghijlnopqrstuwxyz aeabcdeklmnqrsuwyz afabdeghiknopstuz agabcdefghijklmnopqrstuvwxyz
   ahabghiklmnoprst aiabcdefghijklmnopqrstwxy ajaginpstuwz akbcdefghijklmopqrstuvwxyz
   alacdefghijklmnopqrstuvwxyz amabcefgijklmnopqrstuvwxyz anabcdefghijklmnopqrstuvwxyz
   aoabcdefghijklmnrstuxz apabcdefghijklmnopqrstuvwxyz aqacdgklmnprtz arbcdehijklnopqrstuvwxyz
   asabcdefghijklnopqrstuvwxyz atabcdeghijklmnopqrstuvwxyz auabcdefghijklmnopqrstuwxyz
   avbdiklmnostuv awabcdeghikmnorstuvwxy axbegklmx ayabcdeghiklnopqrstuxyz azabcdgjmnotz
   baabcdefghijlnoprstuvwxyz bbabcdefghijklmnopqrstuvwxyz bcabcdefghijklmnopqrstuvwyz
   bdabcdefghijklmnopqrstuvwxyz beabcdefghijkmopqrstuvwxyz bfabcdefghijklmnopqrstuwxyz
   bgabcdefgijklmnopqrstuvwxyz bhabcdefghijklmnopqrstuvwxyz biabcdefgjklmnopqrtuvwxyz
   bjabcdefghijklmnopqrstuvwxyz bkabcdfghijklmnopqrstuvwxyz blabcdefghijklmnopqrstvwxyz
   bmabcdefghijklmnopqrstuvwxyz bnabcdefgijklmnopqrstuvwxyz boabefghijklmnopqrtuvwxyz
   bpabcdeghijklmnopqrstuvwxyz bqabcdfghijklmnopqrstuvwxyz brabcdfghijklmnopqrstuvwxyz
   bsabcefghijklmnopqrstuvwxy btabcdefghijklmnopqrstuvwxyz buabcdefghijkmnopqstuvwxyz
   bvabcdefghijklmnopqrtuvwxyz bwabcdefghijklmnopqrstuwxyz bxabcdefghijklmnopqrsuvwxz
   byabcdefghijklmnopqrstvwxyz bzabcdefghijklmnopqrstuvwxyz caabcdefghijklmnopqrsuvwxyz
   cbabcdeghijklnoqrstuvwy ccacdeghjlmnopqrs cdacdefghijmnorsyz ceabgklnty cfadgm cgacgk
   chbcdfghjklmnopqrtwxyz ciabcdehkmnprwy cjaehikmnoprsvy ckabhlmnoqrstuvxyz clacdehijklmostuwy
   cmacegiklmnorst cnabcghiklopqrstuwx coabcdefghjklmnopqtuvwxyz cpabcefginopsuxy cqdu
   crabcdfghijklmnopqrstvwxyz csabcdefghijklmnopqrstuvwxyz ctacdeghlmnopstuyz
   cuabcghijklmopqrstuvwxy cvgn cwabdegt cxh cyabo czhknot daacdefghijklmopqrsuvwxyz
   dbabdefgijlmnopqrtuvwy dccr ddadegijnorsw decdefghiklmnpqrsvz dgabcdeghiklnorstuwxz
   dhadgilmnorsuvwx diabcdfghijklmnopqrstuwxyz djabcdefijklmnoruw dkagklrsx dlgkmn
   dmabcdefgklmnorsuvwxy dnadegijknortuvwy doabcefhiklnopqrstvwxyz dpp drabcdeghilnoqrstuwy
   dsbehiklnoqz dtabdhikmnoprstuy duabcdefghijklmnopqrsuvwxyz dva dwaklrsuwyz dyabdgimnoruy dzadegln
   eaa ebcgkoru ecrsy eee efaei egalmoxy ehsu eiptv eja ekacegiklmopry elehikmopux
   emabegikmnopqsuwxyz enabcdfhlmnoqruvwx eot epi eraghikrstw eseghiklmnosuxy etbhnorstuxz eudq
   evehn ewo ext eyao ezae faabdfghijklmnprtuxyz fbl fcs fer ffim fgr fiaeflprtuw fkkv flahilnry
   fmpu fnbgi fodimnrsx fpe fqs frcdkmopqrst fsels fubcdefhimnqrtuvy fvr fwae
   gaabcdefghijklmnopqrstuvwxyz gbabcdefghijklmnopqrsuvwxyz gccdflnrt gdbcdefghijklmnoqrstux
   geabcdfghijklmqsvwxyz gfkx ggabdegklnortuw ghaceknorst giabcdeghlmnopqrstxyz gjkmnru gkadenopu
   glbcdhijkloruw gmabdeghlmnqruvwxyz gnabcdeghijklmnoqrtuwz goabcdefghijklmnopqrstuvwxy gpaen gqanr
   grabcdghijkmqrstuvwxyz gseglmnopsw gtaiu guabcdefghiklmnopqrstuvwxz gvacefjlmnoprsy
   gwabcdefgijmnrtuwx gxx gyabdefgilmnoryz gzain haabcdefghijklmnopqrsvwxyz hbabnou hch hdnsy
   headghim hgmw hhiry hiabdfghijklmortwx hji hkaehks hlabdtu hmabdfjmnpqrstuvwxyz hnadeghijmnos
   hoabcdehijklmoprstvwy hpos hracekmoprtuwxz hsbhlns htiosux hubcdefghiklmprstuvwxyz hvceknv hwaco
   hyawx iainr ibabdeghilmnruy icahr idabcdeirstu ifabefkmuy igbeglmnosw ihbipw iinr ijcejnos
   ikehikloprstvwxz ilabgiklmopsuvw imilnorsty inbceghjlnopst ioruw ipio iquw iraehiknouxy
   isacdeghikmnortu itbcdeiklmorstvwxyz ium ivbv iwkmos ixcl iyaox izhimrz jaabcdefhjklmnoqrstuxyz
   jbeijkmnortuw jcst jdagt jebeghiklnrtu jgbeko jhis jiabcdeglmtuvy jjer jkamou jles jmabcdilnrswx
   jnadgijls jobdgrsw jparx jqr jrabrtu jsl juabdhiklmnoprstuwy jvdn jwi jyaey kaabcdghijkmopqrvwxy
   kbabcdeghijklmnopqrstuvwxyz kcabcdefghijklmnopqstuvwyz kdacdefghijklmnopqrtvwxyz
   keabcdefghiklmnorstuvwxyz kfabcdefghiklmnopqrsuvwxyz kgabcdefhijklmopqrstuvwxy
   khabcdefghijklnopqrstuvwxyz kiabcdefghjlmopqstuvwxyz kjabcdeghijklmnopqrstuxyz
   kkabcdefghijklmopqrstuvwxyz klabcdefghijklmnopqrstuvwxyz kmabcdefghijklmnopqrstuvwxyz
   knabcdefgijklmnopqrstuvwxyz koacdefghijklopqstuvwyz kpacdefghijklmnopqrstuvwxyz
   kqabcdefghijklmnopqrstuvwxyz krabcdefhijklmnoprstuvwxyz ksbcdefghijklmnopqrstuvwxz
   ktabcdefghijklmnopqrstuvwxyz kubcdefghijklmnopqstuvwxyz kvabcdefghijklmnopqrstvwxyz
   kwabcdefghijklmnopqrstuvwxyz kxabcdefijklmnopqrtvwxyz kyabcdefghijklmnoqrstuvwxyz
   kzabcdefhijklmnoprstuvwxyz laabcdeghijklmnpqrsuwxz lbbefijklmnoqrstuvwxyz lccdefhlmpqs
   ldabdghijklmnopq leabcdefghijklmnopqrstuvwxyz lfan lgabghiklmnoqrtuz lhahimnstu
   liabcdefghijklopqrsuvwxyz ljaeilpwx lkabcdehijlmnorstuy llabcdefgijklmnopqsux
   lmabcdefghijklmnopqruvwxy lnabdghijlmnsuwz loabceghijklmnopqrstuwxyz lpaenox lqr lracgiklmnotvz
   lsabdegilmnoprstvwy ltcghinosu luacdefhijklmnopqrstuvwyz lvaiklsu lwaeghlmostw lxm lyan lzhlnz
   maabdefgijkmnpqstuvwxz mbabcdfhijklmnopqrstuvwxyz mcabcdefghijklmnopqrstuvwxyz
   mdabcdefghijklmnpqrstuvwxyz meabcdeghjklmnopqrstuvwyz mfabcdefghijklmnopqrstuvwxyz
   mgabcdefghijklmnopqrstuvwxyz mhbcdefgijklmnopqrstuwxyz miabcdefghijklmnopqrstuwxyz
   mjbcdeghijklmnqrstuvwxyz mkabcefhijklmnoprstvwxyz mlabcefhijklnoprsuvwxz mmabcdefghimnopqrtuvwxyz
   mnabcdefghijklmnopqrstuvwxyz moacdefghijkmopqrstuvwxyz mpabcdeghijklmnopqrstuvwxyz
   mqabcefghijklmnopqrstuvwxyz mrabcdefghjklmnopqrstuvwxyz msbdefghijklmnopqrstuvwxyz
   mtabcdefghijklmnopqrstuvwxy muabcdeghijklmnopqrstuvxyz mvadefghklnopqrstuvwxyz
   mwabcdefghijklmnopqrstuvwz mxabcdefghijklmnopqrstuvwxyz mybcdefghjklmnprtuvwxyz
   mzabcdeghijklmnopqrtuvwxyz naabcdefghijklmnopqrstwxyz nbabcdefhijkmnopqrstuvwxy
   ncabcdefghijklmnopqrstuxz ndabcdfghijklmnpqrstuvwxyz neabcdeghijkmnoqrtuwxyz nfadlru
   ngabcdefghijklmnpqrstuvwxyz nhabcdefgikmnopqrtuvwxyz niabcdefghijlmnoqrstuvwxyz
   njabdhijlmnorstuxyz nkabcdefghijkmnoqrstuvwxz nlacegijkmnoqruvwxyz nmabcdefghijklmnopqrstuvwxz
   nnabcdefghijklmnpqrstuvwxyz noacdefghijkmnopqstuvwy npbghilnosuxy nqgklmnoqty nrabefgiklmnpuxz
   nsabcdefghiklmnopqrstuvwxyz ntdegijkmoprsuxyz nuabcdefghijkmnopqrstuvwxyz nvhmo nwbcegimorwx
   nxadegiklnoqrux nybcdefghijklmnopqrstuvwxy nzabdikmrsuyz oaacrv obiklmortu ocaou odaktu ofsu
   ogbcgou ohtu oiaen ojbcgsvw okabcdegiklmorsuvxz oladekmortu omabcgiklopqrtuvwx onaegijknoprstux
   oodnr opakmoty oracegnorstuvwxyz osacioptux otabdeiklmnoqrstuwxyz oubeimn ovd owil oybdmy ozm
   paabcdefghiklmopqrstuvwxyz pbbcefghilmnoprstuvy pcabcdefghijkmnprw pdacnotu peabdegiklmopqsvxyz
   pfael pgadgiklnsuz phdghiklmnortuvw piabcdfghjlmnoprstuvwxyz pjt pkabghnoprsu
   plabcdefghklnorstuvwz pmabcdefhijklmnoqrstuwxyz pnabcdeghijklmnopqrstvwyz pocefghikmnopqstvwyz
   ppaeiklmnopqrst pqaemw pracdefghiklmopqrstuwxyz psacdeghilmnopqrstuw ptahinoprtuv
   puabcdefgijmopqrtuwxyz pwabgmnorw pxm pyemnsuxy pzehn qaabcdefghijklmnopqrstuvwxyz
   qbabcdefghijklmnopqrstuvwxyz qcabcdefghijklmnopqrstuvwxyz qdabcdefghijklmnopqrstuvwxyz
   qeabcdefghijklmnopqrstuvwxyz qfabcdefghijklmnopqrstuvwxyz qgabcdefghijklmnopqrstuvwxyz
   qhabcdefghijklmnopqrstuvwxyz qiabcdefghijklmnopqrstuvwxyz qjabcdefghijklmnopqrstuvwxyz
   qkabcdefghijklmnopqrstuvwxyz qlabcdefghijklmnopqrstuvwxyz qmabcdefghijklmnopqrstuvwxyz
   qnabcdefghijklmnopqrstuvwxyz qoabcdefghijklmnopqrstuvwxyz qpabcdefghijklmnopqrstuvwxyz
   qqabcdefghijklmnopqrstuvwxyz qrabcdefghijklmnopqrstuvwxyz qsabcdefghijklmnopqrstuvwxyz
   qtabcdefghijklmnopqrstuvwxyz quabcdfgiklmnpqrsvwxyz qvacehijlmnopswz qwacehmst qxachlnopqrtuw
   qyap raabcdfghijkmnoprvwxyz rbbklp rcf rdb reabegijlmnsty rganrsu rhgp riabflmnrtu rjgis
   rkabhimtw rmabcdefghiklmnopqrstuwxyz rnbdglnrw roabcdefglmopruw rpnt rrimot rsiklmnw rtchmw
   rubcefgikopqtuyz rwaklmor rxdw ryu saabcdefhijklmopqrstuvwxyz sbabcdeghijklmnopqrstuvwxyz
   scabefghiklnopstuvwx sdabcefghjklnoqrsuvx seabcdefghijklmnopqrstuvwyz sfbemsw
   sgabcdeghijlmnprstuwxyz shabcdeghijkmnopqrstuvwyz siabdefghijklmopqrstuvwxyz sjabcdeglmprtuw
   skabcdefghijkmnopqrstuvwxyz slacdfghijlmnprsuwxyz smabcdfghijklnpqrstuwxyz
   snbcefgijklmnopqrsuvwxyz soabcdegiklnopqrsuvwxyz spbcdegiklmnopqrstvy sqahjkmoqstux
   srabcefghiklmnoqrstuvwxyz ssabcdefghjlmnopqrstuvxyz stabefghijklmnopqrstuvwy
   suabcegijklmoqrstvwyz svabcekms swbcfghijklmopqrstuvwxy sxbenrsuw syabcdiklmnorswxy
   szabcdglnpsvwy taabcdefgijklnopqrsuvwxyz tbacdefghijklmnopqstuvwxyz tcabcdefghikmnopqsuwxyz
   tdabcdeghijklmnoqrstuvxy teabcdeghikmnopqrstuvwxyz tfinort tgabcdefghijnopqstuvwxyz
   thcdefhiklmpqrstuvwxyz ticdefghijklmnopqstuvwxy tjagijlnopsuw tkabdefgklpqrstuvwxz
   tlabcdfghijklmnpqrstuvwxy tmabcdefghijklmnopqrtuvwyz tnabcdefghiklmnopqrstvwxy
   tobcdfghijklmopqrsuvwxyz tpacefgijklmnprtuvwxyz tqblmnoptuw trabcefghijklmnopqrstuvwxyz
   tsabcdefghijlmpqrstuvwxyz ttbcdefhijklmnopqrstuvwyz tuabcdefghijlmnopqstuvwxyz tvadeiklmnostuwx
   twabdefghlmnopqrtuwxy txaegijmnoqstuxy tyaehijlnprstuvxyz tzahjlmnox uamr ubailruy udaegijlmu ues
   ufi ugabehnoy uhan uisv uji ukaghiklpqsuvwy ulabcefikmnuwy umabdgimnoprsu unadegikmnpruxz uokn
   upiv urabcefghijkmnoprtuvwxyz usahikpsu utaehpru uumr uvehl uwa uya uzns vaaefghijlmnoprsuvy vbbk
   vecmopr vgrt vicdfglntv vjk vkajklmnoptuz vlps vmabcdefghijklmpqrsuwxyz vnkmp vort vraost vsilv
   vto vumnt vwa waabcdefghijklmnpqrstuvwxyz wbabefhijklmpqrstvw wcai wddgjktuy wecdghimnoprstuw wfg
   wgabgiouwy whagku wibcefghijklmnrtuvwy wjai wkadrwy wlaeghimorsuvwx wmabcdehimnostwx
   wnbcdegikmnopuwy woabcdefgikmnorsw wpc wrbghiklmoprsuvwxz wsagikrsuv wtbfhikmw wuabdlmnrtuvxy
   wwaborw wxw wybimnry xaabgijklmnorstuvwy xbabdegijmnprwy xchor xdakoqy xedgmrstu xgbdgimnuw xhemv
   xiainrsy xjbt xkabcdefghijlnpqrstuvwxyz xlacdy xmabcdfghjlmnopqrstuvwxyz xnabdijkmnqrtuyz
   xocdgikmnoprw xpabdefghijklmnoqrtvwxz xrabdegimnqruw xsabdehijlmnpqrsuy xtabcdeghijlmnpqstuvwy
   xubdjlmnotu xveinos xwadejklortw xxbkmrt xyabjklty xzhp yaabcdefghijklmnopqrstuvwxyz
   ybabdehijlmnoxy yclnr ydadegks yeaceijlnrstuvy ygailmprsuw yhds yiaghijlmrsvy ykaghikmory
   ylabegilruy ymabegklmnopt ynabdgklqsu yobgiklmnsty ypk yrabeklmoswy ysdlmnprsy ytwy
   yuabcdefgijlmnpqrtuwxz yvat ywagnqruw yxaglmuy yyru zaabcdefghijkmopqrstuvwxyz zbacetuw zcah zdj
   zeaghmn zgabhmnr zhdinwx ziabklmnrwz zkabdoptuz zlaejmnqsuw zmabcdefghijklmnopqrstuvwxyz znadegks
   zochmoqrs zpabcdefghijklmnopqrstuvwxyz zqe zrgnops zsalmru zteglmnpqstuxy zuhmny zwa zxx zybgjnp
   zzaj"

/-- Whether a language with three letters is registered. -/
def isLanguage3 (code : String) : Bool :=
  match code.toList with
  | [a, b, c] => languages3.any fun w =>
    match w.toList with
    | x :: y :: ends => x == a && y == b && ends.contains c
    | _ => false
  | _ => false

/-- Languages that go by another code now. -/
def replacedLanguages : List (String × String) := pairs
  "adp-dz aue-ktz ayx-nun bgm-bcg bjd-drl ccq-rki cjr-mom cka-cmr cmk-xch coy-pij cqu-quh drh-mn
   drw-fa gav-dev gfx-vaj ggn-gvr gti-nyc guv-duz hrr-jal ibi-opa ilw-gal in-id iw-he jeg-oyb ji-yi
   jw-jv kgc-tdf kgh-kml koj-kwv krm-bmf ktr-dtp kvs-gdj kwq-yam kxe-tvd kzj-dtp kzt-dtp lii-raq
   lmm-rmx meg-cir mo-ro mst-mry mwj-vaj myd-aog myt-mry nad-xny ncp-kdz nnx-ngv nts-pij oun-vaj
   pcr-adx pmc-huw pmu-phr ppa-bfy ppr-lcq pry-prt puz-pub sca-hle skk-oyb tdu-dtp thc-tpo thx-oyb
   tie-ras tkk-twm tlw-weo tmp-tyj tne-kak tnf-fa tsf-taj uok-ema xba-cax xia-acn xkh-waw xsj-suj
   ybd-rki yma-lrr ymt-mtm yos-zom yuu-yug"

/-- Languages that are still written by a code out of use. -/
def outgrownLanguages : List (String × String) := pairs
  "sh-sr tl-fil"

/-- Languages that count as the main form of a wider one. -/
def widerLanguages : List (String × String) := pairs
  "aju-jrb als-sq arb-ar ayr-ay azj-az bcc-bal bcl-bik bh-bho bxk-luy bxr-bua cld-syr cmn-zh cwd-cr
   dgo-doi dhd-mwr dik-din diq-zza ekk-et emk-man esk-ik fat-ak fuc-ff gaz-om gbo-grb gno-gon gug-gn
   gya-gba hdn-hai hea-hmn ike-iu kmr-ku knn-kok kpv-kv lbk-bnc lvs-lv mhr-chm mup-raj nb-no npi-ne
   ojg-oj ory-or pbu-ps pes-fa plt-mg pnb-lah quz-qu rmy-rom spy-kln src-sc swh-sw ttq-tmh tw-ak
   umu-del uzn-uz xpe-kpe xsl-den ydd-yi zai-zap zsm-ms zyb-za"

/-- Scripts. -/
def scripts : List String := Text.words
  "Adlm Afak Aghb Ahom Arab Aran Armi Armn Avst Bali Bamu Bass Batk Beng Bhks Blis Bopo Brah Brai
   Bugi Buhd Cakm Cans Cari Cham Cher Chrs Cirt Copt Cpmn Cprt Cyrl Cyrs Deva Diak Dogr Dsrt Dupl
   Egyd Egyh Egyp Elba Elym Ethi Geok Geor Glag Gong Gonm Goth Gran Grek Gujr Guru Hanb Hang Hani
   Hano Hans Hant Hatr Hebr Hira Hluw Hmng Hmnp Hrkt Hung Inds Ital Jamo Java Jpan Jurc Kali Kana
   Kawi Khar Khmr Khoj Kitl Kits Knda Kore Kpel Kthi Lana Laoo Latf Latg Latn Leke Lepc Limb Lina
   Linb Lisu Loma Lyci Lydi Mahj Maka Mand Mani Marc Maya Medf Mend Merc Mero Mlym Modi Mong Moon
   Mroo Mtei Mult Mymr Nagm Nand Narb Nbat Newa Nkdb Nkgb Nkoo Nshu Ogam Olck Orkh Orya Osge Osma
   Ougr Palm Pauc Pcun Pelm Perm Phag Phli Phlp Phlv Phnx Piqd Plrd Prti Psin Qaaa Qaab Qaac Qaad
   Qaae Qaaf Qaag Qaah Qaai Qaaj Qaak Qaal Qaam Qaan Qaao Qaap Qaaq Qaar Qaas Qaat Qaau Qaav Qaaw
   Qaax Qaay Qaaz Qaba Qabb Qabc Qabd Qabe Qabf Qabg Qabh Qabi Qabj Qabk Qabl Qabm Qabn Qabo Qabp
   Qabq Qabr Qabs Qabt Qabu Qabv Qabw Qabx Ranj Rjng Rohg Roro Runr Samr Sara Sarb Saur Sgnw Shaw
   Shrd Shui Sidd Sind Sinh Sogd Sogo Sora Soyo Sund Sunu Sylo Syrc Syre Syrj Syrn Tagb Takr Tale
   Talu Taml Tang Tavt Telu Teng Tfng Tglg Thaa Thai Tibt Tirh Tnsa Toto Ugar Vaii Visp Vith Wara
   Wcho Wole Xpeo Xsux Yezi Yiii Zanb Zinh Zmth Zsye Zsym Zxxx Zyyy Zzzz"

/-- Regions with two letters. -/
def regions : List String := Text.words
  "AA AC AD AE AF AG AI AL AM AN AO AQ AR AS AT AU AW AX AZ BA BB BD BE BF BG BH BI BJ BL BM BN BO
   BQ BR BS BT BU BV BW BY BZ CA CC CD CF CG CH CI CK CL CM CN CO CP CQ CR CS CT CU CV CW CX CY CZ
   DD DE DG DJ DK DM DO DY DZ EA EC EE EG EH ER ES ET EU EZ FI FJ FK FM FO FQ FR FX GA GB GD GE GF
   GG GH GI GL GM GN GP GQ GR GS GT GU GW GY HK HM HN HR HT HU HV IC ID IE IL IM IN IO IQ IR IS IT
   JE JM JO JP JT KE KG KH KI KM KN KP KR KW KY KZ LA LB LC LI LK LR LS LT LU LV LY MA MC MD ME MF
   MG MH MI MK ML MM MN MO MP MQ MR MS MT MU MV MW MX MY MZ NA NC NE NF NG NH NI NL NO NP NQ NR NT
   NU NZ OM PA PC PE PF PG PH PK PL PM PN PR PS PT PU PW PY PZ QA QM QN QO QP QQ QR QS QT QU QV QW
   QX QY QZ RE RH RO RS RU RW SA SB SC SD SE SG SH SI SJ SK SL SM SN SO SR SS ST SU SV SX SY SZ TA
   TC TD TF TG TH TJ TK TL TM TN TO TP TR TT TV TW TZ UA UG UK UM UN US UY UZ VA VC VD VE VG VI VN
   VU WF WK WS XA XB XC XD XE XF XG XH XI XJ XK XL XM XN XO XP XQ XR XS XT XU XV XW XX XY XZ YD YE
   YT YU ZA ZM ZR ZW ZZ"

/-- Groups of regions, which have numbers only. -/
def regionGroups : List String := Text.words
  "001 002 003 005 009 011 013 014 015 017 018 019 021 029 030 034 035 039 053 054 057 061 142 143
   145 150 151 154 155 202 419"

/-- Regions by number. -/
def numberedRegions : List (String × String) := pairs
  "004-AF 008-AL 010-AQ 012-DZ 016-AS 020-AD 024-AO 028-AG 031-AZ 032-AR 036-AU 040-AT 044-BS 048-BH
   050-BD 051-AM 052-BB 056-BE 060-BM 064-BT 068-BO 070-BA 072-BW 074-BV 076-BR 084-BZ 086-IO 090-SB
   092-VG 096-BN 100-BG 104-MM 108-BI 112-BY 116-KH 120-CM 124-CA 132-CV 136-KY 140-CF 144-LK 148-TD
   152-CL 156-CN 158-TW 162-CX 166-CC 170-CO 174-KM 175-YT 178-CG 180-CD 184-CK 188-CR 191-HR 192-CU
   196-CY 203-CZ 204-BJ 208-DK 212-DM 214-DO 218-EC 222-SV 226-GQ 231-ET 232-ER 233-EE 234-FO 238-FK
   239-GS 242-FJ 246-FI 248-AX 249-FX 250-FR 254-GF 258-PF 260-TF 262-DJ 266-GA 268-GE 270-GM 275-PS
   276-DE 278-DD 288-GH 292-GI 296-KI 300-GR 304-GL 308-GD 312-GP 316-GU 320-GT 324-GN 328-GY 332-HT
   334-HM 336-VA 340-HN 344-HK 348-HU 352-IS 356-IN 360-ID 364-IR 368-IQ 372-IE 376-IL 380-IT 384-CI
   388-JM 392-JP 398-KZ 400-JO 404-KE 408-KP 410-KR 414-KW 417-KG 418-LA 422-LB 426-LS 428-LV 430-LR
   434-LY 438-LI 440-LT 442-LU 446-MO 450-MG 454-MW 458-MY 462-MV 466-ML 470-MT 474-MQ 478-MR 480-MU
   484-MX 492-MC 496-MN 498-MD 499-ME 500-MS 504-MA 508-MZ 512-OM 516-NA 520-NR 524-NP 528-NL 530-AN
   531-CW 533-AW 534-SX 535-BQ 536-NT 540-NC 548-VU 554-NZ 558-NI 562-NE 566-NG 570-NU 574-NF 578-NO
   580-MP 581-UM 583-FM 584-MH 585-PW 586-PK 591-PA 598-PG 600-PY 604-PE 608-PH 612-PN 616-PL 620-PT
   624-GW 626-TL 630-PR 634-QA 638-RE 642-RO 643-RU 646-RW 652-BL 654-SH 659-KN 660-AI 662-LC 663-MF
   666-PM 670-VC 674-SM 678-ST 682-SA 686-SN 688-RS 690-SC 694-SL 702-SG 703-SK 704-VN 705-SI 706-SO
   710-ZA 716-ZW 720-YD 724-ES 728-SS 729-SD 732-EH 740-SR 744-SJ 748-SZ 752-SE 756-CH 760-SY 762-TJ
   764-TH 768-TG 772-TK 776-TO 780-TT 784-AE 788-TN 792-TR 795-TM 796-TC 798-TV 800-UG 804-UA 807-MK
   810-SU 818-EG 826-GB 830-JE 831-GG 832-JE 833-IM 834-TZ 840-US 850-VI 854-BF 858-UY 860-UZ 862-VE
   876-WF 882-WS 887-YE 890-YU 891-CS 894-ZM 958-AA 959-QM 960-QN 961-QO 962-QP 963-QQ 964-QR 965-QS
   966-QT 967-QU 968-QV 969-QW 970-QX 971-QY 972-QZ 973-XA 974-XB 975-XC 976-XD 977-XE 978-XF 979-XG
   980-XH 981-XI 982-XJ 983-XK 984-XL 985-XM 986-XN 987-XO 988-XP 989-XQ 990-XR 991-XS 992-XT 993-XU
   994-XV 995-XW 996-XX 997-XY 998-XZ 999-ZZ"

/-- Regions that go by another code now. -/
def replacedRegions : List (String × String) := pairs
  "BU-MM CT-KI DD-DE DY-BJ FX-FR HV-BF JT-UM MI-UM NH-VU NQ-AQ PU-UM PZ-PA QU-EU RH-ZW TP-TL UK-GB
   VD-VN WK-UM YD-YE ZR-CD"

/-- Variants, in the order in which a tag holds them. -/
def knownVariants : List String := Text.words
  "1606nict 1694acad 1901 1959acad 1996 abl1943 akuapem aluku ao1990 aranes arevela arevmda arkaika
   asante auvern baku1926 balanka barla basiceng bauddha bciav bcizbl biscayan bohoric boont
   bornholm cisaup colb1945 cornu creiss dajnko ekavsk emodeng gallo gascon grclass grital grmistr
   hepburn hognorsk hsistemo ijekavsk itihasa ivanchov jauer jyutping kkcor kociewie kscor laukika
   lemosin lengadoc ltg1929 ltg2007 luna1918 metelko monoton ndyuka nedis newfound nicard nulik
   oxendict pahawh2 pahawh3 pahawh4 pamaka peano petr1708 pinyin polyton provenc puter rigik rozaj
   rumgr scotland scouse sotav spanglis surmiran sursilv sutsilv synnejyl tarask tongyong tunumiit
   uccor ucrcor ulster unifon vaidika valencia vallader vecdruka vivaraup wadegile xsistemo biske
   lipaw njiva osojs solba 1994 heploc alalc97 fonipa fonkirsh fonnapa fonupa fonxsamp simple"

/-- Whole tags that were registered before subtags were, and what they mean. -/
def wholeTags : List (String × String) := [
  ("art-lojban", "jbo"), ("i-ami", "ami"), ("i-bnn", "bnn"), ("i-hak", "hak"), ("i-klingon", "tlh"),
  ("i-lux", "lb"), ("i-navajo", "nv"), ("i-pwn", "pwn"), ("i-tao", "tao"), ("i-tay", "tay"),
  ("i-tsu", "tsu"), ("no-bok", "nb"), ("no-nyn", "nn"), ("sgn-be-fr", "sfb"), ("sgn-be-nl", "vgt"),
  ("sgn-ch-de", "sgg"), ("zh-guoyu", "cmn"), ("zh-hakka", "hak"), ("zh-min-nan", "nan"),
  ("zh-xiang", "hsn"), ("cel-gaulish", "xtg-x-cel-gaulish"), ("en-gb-oed", "en-GB-oxendict"),
  ("i-default", "en-x-i-default"), ("i-enochian", "und-x-i-enochian"), ("i-mingo", "see-x-i-mingo"),
  ("zh-min", "nan-x-zh-min"), ("en-us-posix", "en-US-u-va-posix"), ("root", "und")]

end Trellis.Locale
